import CallGuard.Proofs.Command.Change
import CallGuard.Proofs.Command.Recording

/-! # Commands that run at the same time

Any number of commands may be at work on one disk. In each step one of them has its next request answered, or its
request on files fails, or it stops for good. Whatever the order of these steps is, the policy file never permits what
the audit trail does not tell to be approved (`Reachable.permitted_recorded`). The invariant of a system is `Sound`. -/

namespace CallGuard

/-- Commands at work on a disk. -/
structure System where
  disk : Disk
  running : List (Script (Except Failure Unit))

/-- An answer by which a request on files fails. -/
inductive Request.Fails : (r : Request) → r.Answer → Prop
  | isPresent (path : String) (fault : OsFault) : Fails (.isPresent path) (.error fault)
  | read (path : String) (fault : OsFault) : Fails (.read path) (.error fault)
  | append (path text : String) (fault : OsFault) : Fails (.append path text) (.error fault)
  | makeParents (path : String) (fault : OsFault) : Fails (.makeParents path) (.error fault)
  | write (path text : String) (fault : OsFault) : Fails (.write path text) (.error fault)

namespace System

/-- One step: a command is started, one that runs has its next request answered in some world with this disk or failed
    without an effect, or it stops for good. Folders may be made before making folders fails. -/
inductive Step (files : Files) : System → System → Prop
  | init {sys : System} {s : Settings} (huses : s.Uses files) (force : Bool) :
    Step files sys ⟨sys.disk, ExceptT.run (Command.init s force) :: sys.running⟩
  | admin {sys : System} {s : Settings} (huses : s.Uses files) (caller : String) (change : ChangeText) (note : String)
      (force : Bool) : Step files sys ⟨sys.disk, ExceptT.run (Command.admin s caller change note force) :: sys.running⟩
  | answer {before after : List (Script (Except Failure Unit))} {r : Request}
      {next : r.Answer → Script (Except Failure Unit)} (w : World) :
    Step files ⟨w.disk, before ++ .ask r next :: after⟩ ⟨(w.answer r).2.disk, before ++ next (w.answer r).1 :: after⟩
  | fail {d : Disk} {before after : List (Script (Except Failure Unit))} {r : Request}
      {next : r.Answer → Script (Except Failure Unit)} {answer : r.Answer} (h : r.Fails answer) :
    Step files ⟨d, before ++ .ask r next :: after⟩ ⟨d, before ++ next answer :: after⟩
  | folders {d d' : Disk} {before after : List (Script (Except Failure Unit))}
      {next : Except OsFault Unit → Script (Except Failure Unit)} (h : Disk.AddsFolders d d') (path : String)
      (fault : OsFault) :
    Step files ⟨d, before ++ .ask (.makeParents path) next :: after⟩ ⟨d', before ++ next (.error fault) :: after⟩
  | stop {d : Disk} {before after : List (Script (Except Failure Unit))} (script : Script (Except Failure Unit)) :
    Step files ⟨d, before ++ script :: after⟩ ⟨d, before ++ after⟩

/-- What commands can bring about that are started on a disk. -/
inductive Reachable (files : Files) (d : Disk) : System → Prop
  | start : Reachable files d ⟨d, []⟩
  | step {sys sys' : System} (h : Reachable files d sys) (hstep : Step files sys sys') : Reachable files d sys'

end System

/-- A complete line of the trail is an event that approved a key. -/
def OnRecord (files : Files) (d : Disk) (key : Key) : Prop :=
  ∃ log, d.read files.trail = .ok log ∧
    ∃ e : Event, e.key = key ∧ e.change = .approved ∧ e.text ∈ (piecesOf log).dropLast

/-- The lines of the trail are complete, and the policy file permits nothing but what is on record. -/
structure Files.Sound (files : Files) (d : Disk) : Prop where
  lines : EndsLine (d.textAt (Disk.placeOf files.trail))
  policy : ∀ text, d (Disk.placeOf files.policy) = some (.file text) → Permits text (OnRecord files d)

/-- The second disk is sound, and everything that was on record on the first one is on record there. -/
structure Files.Advances (files : Files) (d d' : Disk) : Prop where
  within : Within (OnRecord files d) (OnRecord files d')
  sound : files.Sound d'

section
variable {files : Files} {d d' : Disk}

theorem Files.Sound.advances (h : files.Sound d) : files.Advances d d :=
  ⟨Within.refl _, h⟩

theorem onRecord_of_keeps (files : Files) (hkeeps : Disk.KeepsFolders d d')
    (hplace : ∀ text, d (Disk.placeOf files.trail) = some (.file text) →
      d' (Disk.placeOf files.trail) = some (.file text)) : Within (OnRecord files d) (OnRecord files d') := by
  intro key hkey
  obtain ⟨log, hlog, hrecord⟩ := hkey
  obtain ⟨place, htarget, hfile⟩ := Disk.read_eq_ok.mp hlog
  obtain rfl := Disk.placeOf_of_target htarget
  have hsame := (hplace log hfile).trans hfile.symm
  exact ⟨log, Disk.read_of_keeps hkeeps hsame hlog, hrecord⟩

theorem Files.Sound.of_folders (h : files.Sound d) (hadds : Disk.AddsFolders d d') : files.Advances d d' := by
  have hwithin := onRecord_of_keeps files hadds.keeps fun _ => hadds.file
  refine ⟨hwithin, ?_, ?_⟩
  · rw [hadds.textAt]
    exact h.lines
  · intro text htext
    exact (h.policy text (hadds.file_of_file htext)).mono hwithin

theorem Files.Sound.of_write (hapart : Disk.placeOf files.trail ≠ Disk.placeOf files.policy) (h : files.Sound d)
    {old text : String} (htarget : d.target files.policy = .ok (Disk.placeOf files.policy, old))
    (hpermits : Permits text (OnRecord files d)) (hd' : d' = d.put (Disk.placeOf files.policy) (.file text)) :
    files.Advances d d' := by
  subst hd'
  have hkeeps := Disk.keepsFolders_put (Disk.target_ne_folder htarget) (.file text)
  have hwithin := onRecord_of_keeps files hkeeps fun _ hfile => (Disk.put_other hapart d _).trans hfile
  refine ⟨hwithin, ?_, ?_⟩
  · rw [Disk.textAt_put_other hapart]
    exact h.lines
  · intro text' htext
    rw [Disk.put_same] at htext
    cases htext
    exact hpermits.mono hwithin

theorem Files.Sound.of_append (hapart : Disk.placeOf files.trail ≠ Disk.placeOf files.policy) (h : files.Sound d)
    {old : String} {events : List Event} (htarget : d.target files.trail = .ok (Disk.placeOf files.trail, old))
    (hd' : d' = d.put (Disk.placeOf files.trail) (.file (old ++ Event.linesOf events))) :
    files.Advances d d' ∧ ∀ e ∈ events, e.change = .approved → OnRecord files d' e.key := by
  subst hd'
  have hends : EndsLine old := by
    rw [← Disk.textAt_of_target htarget]
    exact h.lines
  -- The text before is complete lines, so the new ones do not run into them.
  have hpieces : (piecesOf (old ++ Event.linesOf events)).dropLast =
      (piecesOf old).dropLast ++ events.map Event.text := by
    rw [piecesOf_append_of_endsLine hends, Event.piecesOf_linesOf, ← List.append_assoc, List.dropLast_concat]
  have hread := Disk.read_eq_ok.mpr
    ⟨_, Disk.target_put htarget (old ++ Event.linesOf events), Disk.put_same d (Disk.placeOf files.trail) _⟩
  have hwithin : Within (OnRecord files d)
      (OnRecord files (d.put (Disk.placeOf files.trail) (.file (old ++ Event.linesOf events)))) := by
    intro key hkey
    obtain ⟨log, hlog, e, hkey, happroved, hline⟩ := hkey
    obtain ⟨place, htarget', -⟩ := Disk.read_eq_ok.mp hlog
    rw [htarget] at htarget'
    cases htarget'
    refine ⟨_, hread, e, hkey, happroved, ?_⟩
    rw [hpieces]
    exact List.mem_append_left _ hline
  refine ⟨⟨hwithin, ?_, ?_⟩, ?_⟩
  · rw [Disk.textAt_put_same]
    exact hends.append (Event.endsLine_linesOf events)
  · intro text htext
    rw [Disk.put_other hapart.symm] at htext
    exact (h.policy text htext).mono hwithin
  · intro e he happroved
    refine ⟨_, hread, e, rfl, happroved, ?_⟩
    rw [hpieces]
    exact List.mem_append_right _ (List.mem_map_of_mem he)

/-- An answer to a request that is allowed keeps the files sound, and tells what is then on record. -/
theorem Files.Sound.answer (hapart : Disk.placeOf files.trail ≠ Disk.placeOf files.policy) {w : World}
    (h : files.Sound w.disk) {r : Request} (hallows : files.Allows (OnRecord files w.disk) r) :
    files.Advances w.disk (w.answer r).2.disk ∧
      files.Tells (OnRecord files (w.answer r).2.disk) r (w.answer r).1 := by
  cases r with
  | read path =>
    refine ⟨h.advances, ?_⟩
    show files.Tells (OnRecord files w.disk) (.read path) (w.disk.read path)
    cases hread : w.disk.read path with
    | error fault => trivial
    | ok text =>
      intro hpath
      subst hpath
      obtain ⟨place, htarget, hfile⟩ := Disk.read_eq_ok.mp hread
      obtain rfl := Disk.placeOf_of_target htarget
      exact h.policy text hfile
  | append path text =>
    obtain ⟨rfl, events, rfl⟩ := hallows
    have hanswer : w.answer (.append files.trail (Event.linesOf events)) =
      w.changeDisk (w.disk.append files.trail (Event.linesOf events)) := rfl
    rw [hanswer]
    cases happend : w.disk.append files.trail (Event.linesOf events) with
    | error fault => exact ⟨h.advances, trivial⟩
    | ok d' =>
      obtain ⟨place, old, htarget, hd'⟩ := Disk.append_eq_ok.mp happend
      obtain rfl := Disk.placeOf_of_target htarget
      refine ⟨(h.of_append hapart htarget hd').1, ?_⟩
      -- Whatever events the text may be taken for, it is their lines that were appended.
      intro others htext
      rw [htext] at hd'
      exact (h.of_append hapart htarget hd').2
  | makeParents path =>
    have hanswer : w.answer (.makeParents path) = w.changeDisk (w.disk.makeParents path) := rfl
    rw [hanswer]
    cases hmake : w.disk.makeParents path with
    | error fault => exact ⟨h.advances, trivial⟩
    | ok d' => exact ⟨h.of_folders (Disk.makeFolders_adds hmake), trivial⟩
  | write path text =>
    obtain ⟨rfl, hpermits⟩ := hallows
    have hanswer : w.answer (.write files.policy text) = w.changeDisk (w.disk.write files.policy text) := rfl
    rw [hanswer]
    cases hwrite : w.disk.write files.policy text with
    | error fault => exact ⟨h.advances, trivial⟩
    | ok d' =>
      obtain ⟨place, old, htarget, hd'⟩ := Disk.write_eq_ok.mp hwrite
      obtain rfl := Disk.placeOf_of_target htarget
      exact ⟨h.of_write hapart htarget hpermits hd', trivial⟩
  | confirm prompt =>
    have hdisk : (w.answer (.confirm prompt)).2.disk = w.disk := by
      rw [World.answer]
      cases w.keys <;> rfl
    rw [hdisk]
    exact ⟨h.advances, trivial⟩
  | _ => exact ⟨h.advances, trivial⟩

theorem tells_of_fails {later : Key → Prop} {r : Request} {answer : r.Answer} (h : r.Fails answer) :
    files.Tells later r answer := by
  cases h <;> trivial

end

namespace System
variable {files : Files} {d : Disk} {sys sys' : System}

/-- The files are sound, and no command at work will ask for anything else. -/
structure Sound (files : Files) (sys : System) : Prop where
  disk : files.Sound sys.disk
  running : ∀ script ∈ sys.running, script.Safe files (fun _ _ => True) (OnRecord files sys.disk)

theorem Sound.start_command {command : Command Unit} (h : Sound files sys)
    (hsafe : command.Safe files (fun _ _ => True) (OnRecord files sys.disk)) :
    Sound files ⟨sys.disk, ExceptT.run command :: sys.running⟩ := by
  refine ⟨h.disk, fun script hscript => ?_⟩
  rcases List.mem_cons.mp hscript with rfl | hold
  · exact Script.Safe.imp hsafe fun _ _ _ => trivial
  · exact h.running script hold

/-- One command goes on, and what is on record then leaves the others safe. -/
theorem Sound.go_on {d' : Disk} {before after : List (Script (Except Failure Unit))}
    {script next : Script (Except Failure Unit)} (h : Sound files ⟨d, before ++ script :: after⟩)
    (hadvances : files.Advances d d') (hnext : next.Safe files (fun _ _ => True) (OnRecord files d')) :
    Sound files ⟨d', before ++ next :: after⟩ := by
  refine ⟨hadvances.sound, fun other hother => ?_⟩
  rcases List.mem_append.mp hother with hbefore | hrest
  · exact (h.running other (List.mem_append_left _ hbefore)).mono hadvances.within
  rcases List.mem_cons.mp hrest with rfl | hafter
  · exact hnext
  · exact (h.running other (List.mem_append_right _ (List.mem_cons_of_mem _ hafter))).mono hadvances.within

theorem Sound.step (hapart : Disk.placeOf files.trail ≠ Disk.placeOf files.policy) (h : Sound files sys)
    (hstep : Step files sys sys') : Sound files sys' := by
  cases hstep with
  | init huses force => exact h.start_command (Command.safe_init huses force)
  | admin huses caller change note force => exact h.start_command (Command.safe_admin huses caller change note force)
  | @answer before after r next w =>
    obtain ⟨hallows, hnext⟩ := h.running (.ask r next) (List.mem_append_right _ List.mem_cons_self)
    obtain ⟨hadvances, htells⟩ := h.disk.answer hapart hallows
    exact h.go_on hadvances (hnext _ _ hadvances.within htells)
  | @fail d before after r next answer hfails =>
    obtain ⟨-, hnext⟩ := h.running (.ask r next) (List.mem_append_right _ List.mem_cons_self)
    exact h.go_on h.disk.advances (hnext _ _ (Within.refl _) (tells_of_fails hfails))
  | @folders d d' before after next hadds path fault =>
    obtain ⟨-, hnext⟩ := h.running (.ask (.makeParents path) next) (List.mem_append_right _ List.mem_cons_self)
    have hadvances := h.disk.of_folders hadds
    exact h.go_on hadvances (hnext _ _ hadvances.within trivial)
  | @stop d before after script =>
    refine ⟨h.disk, fun other hother => h.running other ?_⟩
    rcases List.mem_append.mp hother with hbefore | hafter
    · exact List.mem_append_left _ hbefore
    · exact List.mem_append_right _ (List.mem_cons_of_mem _ hafter)

theorem Reachable.sound (hapart : Disk.placeOf files.trail ≠ Disk.placeOf files.policy) (hd : files.Sound d)
    (h : Reachable files d sys) : Sound files sys := by
  induction h with
  | start => exact ⟨hd, nofun⟩
  | step _ hstep ih => exact ih.step hapart hstep

section
variable {α : Type} {w w' : World} {others : List (Script (Except Failure Unit))}

/-- The first part of a command may run to its end while no other command goes on. -/
theorem Reachable.run_first {script : Script α} {f : α → Script (Except Failure Unit)}
    (h : Reachable files d ⟨w.disk, script.bind f :: others⟩) :
    Reachable files d ⟨(script.run w).2.disk, f (script.run w).1 :: others⟩ := by
  induction script generalizing w with
  | done result => exact h
  | ask r next ih => exact ih _ (h.step (@Step.answer files [] others r (fun answer => (next answer).bind f) w))

/-- A command may run from its start to its end while no other goes on. -/
theorem Reachable.run_alone {script : Script (Except Failure Unit)}
    (h : Reachable files d ⟨w.disk, script :: others⟩) :
    Reachable files d ⟨(script.run w).2.disk, .done (script.run w).1 :: others⟩ := by
  rw [← Script.bind_done script] at h
  exact h.run_first

theorem Reachable.run_bind {command : Command α} {next : α → Command Unit} {a : α}
    (h : Reachable files d ⟨w.disk, ExceptT.run (command >>= next) :: others⟩)
    (hrun : Command.runOn command w = (.ok a, w')) : Reachable files d ⟨w'.disk, ExceptT.run (next a) :: others⟩ := by
  have hparts : Reachable files d ⟨w.disk, (ExceptT.run command).bind (ExceptT.bindCont next) :: others⟩ := h
  have hfirst := hparts.run_first
  rw [Command.runOn] at hrun
  rw [hrun] at hfirst
  exact hfirst

/-- A command that writes a guard may have its events appended, with all of saving still to come. -/
theorem Reachable.run_append {s : Settings} {g : Guard} {log : String} {next : Unit → Command Unit}
    (h : Reachable files d ⟨w.disk, ExceptT.run (Command.persist s g >>= next) :: others⟩)
    (htrail : w.disk.target s.auditLog = .ok (Disk.placeOf s.auditLog, log)) :
    Reachable files d ⟨(Command.appended w (Disk.placeOf s.auditLog) log g.events).disk,
      ExceptT.run (Command.save s.policyFile ⟨g.policy, ⟨g.trail.nextSeq, []⟩⟩ >>= next) :: others⟩ := by
  have hparts : Reachable files d ⟨w.disk, (ExceptT.run (Command.appendEvents s.auditLog g.events)).bind
      (fun result => (ExceptT.bindCont (fun _ => Command.save s.policyFile ⟨g.policy, ⟨g.trail.nextSeq, []⟩⟩)
        result).bind (ExceptT.bindCont next)) :: others⟩ := by
    rw [← Script.bind_assoc]
    exact h
  have hrun := Command.runOn_appendEvents htrail g.events
  have happended := hparts.run_first
  rw [Command.runOn] at hrun
  rw [hrun] at happended
  exact happended

/-- A command that makes the policy file may come to have its events appended, with the policy still to be written. -/
theorem Reachable.init_recorded {s : Settings} {g : Guard} {log : String}
    (h : Reachable files d ⟨w.disk, ExceptT.run (Command.init s true) :: others⟩) (hready : s.Ready w.disk log)
    (hguard : s.bootstrapGuard w.clock = .ok g) :
    ∃ (w' : World) (text : String) (next : Except OsFault Unit → Script (Except Failure Unit)),
      s.Ready w'.disk (log ++ Event.linesOf g.events) ∧
      Reachable files d ⟨w'.disk, .ask (.write s.policyFile text) next :: others⟩ ∧
      ∀ fault, next (.error fault) = .done (.error (.policyNotSaved s.policyFile fault)) := by
  obtain ⟨_, hpolicy⟩ := hready.policy
  obtain ⟨present, hpresent⟩ := Disk.isPresent_of_target hpolicy
  have hforced : ¬(present && !true) = true := by simp
  have hfollowed : Command.runOn (Command.ofExcept .policyNotFollowed (w.disk.isPresent s.policyFile)) w =
      (.ok present, w) := by
    rw [hpresent, Command.runOn_ofExcept]
    rfl
  rw [Command.init_eq] at h
  have hmake := (h.run_bind (Command.runOn_ask _ w)).run_bind hfollowed
  simp only [if_neg hforced] at hmake
  have hread := hmake.run_bind (Command.runOn_readClock s.bootstrap.size w)
  rw [Guard.bootstrapGuard_upTo, hguard] at hread
  have hpersist := hread.run_bind (Command.runOn_ofExcept .settings (.ok g) (w.ticked s.bootstrap.size))
  have happended := hpersist.run_append hready.trail
  have hready' := Command.ready_appended (w := w.ticked s.bootstrap.size) hready g.events
  generalize Command.appended (w.ticked s.bootstrap.size) (Disk.placeOf s.auditLog) log g.events = recorded
    at happended hready'
  have hparents : recorded.answer (.makeParents s.policyFile) = (.ok (), recorded) := by
    rw [World.answer, hready'.parents]
    rfl
  have hwrite := happended.step (@Step.answer files [] others (.makeParents s.policyFile) _ recorded)
  rw [hparents] at hwrite
  exact ⟨recorded, _, _, hready', hwrite, fun _ => rfl⟩

end

/-- Every entry of the policy file has been approved by an event that is on the audit trail, wherever the commands are
    and whichever of them failed or stopped on the way. To begin with there is no policy file, and the trail is missing
    or holds whole lines, as it does where nothing else writes to it. -/
theorem Reachable.permitted_recorded (hapart : Disk.placeOf files.trail ≠ Disk.placeOf files.policy)
    (hnone : ∀ text, d (Disk.placeOf files.policy) ≠ some (.file text))
    (hlines : EndsLine (d.textAt (Disk.placeOf files.trail))) (h : Reachable files d sys) {text : String}
    (hread : sys.disk.read files.policy = .ok text) :
    ∃ snapshot, Snapshot.read text = .ok snapshot ∧ ∀ key ∈ snapshot.keys, OnRecord files sys.disk key := by
  have hsound := h.sound hapart ⟨hlines, fun text htext => absurd htext (hnone text)⟩
  obtain ⟨place, htarget, hfile⟩ := Disk.read_eq_ok.mp hread
  obtain rfl := Disk.placeOf_of_target htarget
  obtain ⟨p, rfl, hkeys⟩ := hsound.disk.policy text hfile
  refine ⟨.ofPolicy p, Snapshot.read_text _, fun key hkey => ?_⟩
  exact hkeys key (Snapshot.mem_keys_ofPolicy.mp hkey)

/-- Two commands make the policy file in an empty folder. One has recorded its wallet when the other is started, records
    a wallet of its own and saves; then the first one fails to save. -/
theorem Reachable.permitted_recorded_wallet :
    let files : Files := ⟨"policy.json", "audit.jsonl"⟩
    let wallet : Address := .ofNat 20 2
    let full : OsFault := ⟨"No space left on device", some 28⟩
    ∃ sys text snapshot, Reachable files .empty sys ∧
      sys.running = [.done (.ok ()), .done (.error (.policyNotSaved files.policy full))] ∧
      sys.disk.read files.policy = .ok text ∧ Snapshot.read text = .ok snapshot ∧ .sender wallet ∈ snapshot.keys ∧
      ∀ key ∈ snapshot.keys, OnRecord files sys.disk key := by
  intro files wallet full
  let owner : Address := .ofNat 20 1
  let settings (wallet : Address) : Settings :=
    { governance := owner.toHex, bootstrap := { senders := [wallet.toHex] } }
  have hguard (wallet : Address) (clock : Clock) :
      ∃ g, (settings wallet).bootstrapGuard clock = .ok g ∧ .sender wallet ∈ g.policy :=
    ⟨_, Guard.bootstrapGuard_of_senders owner [wallet] clock, Policy.mem_allow.mpr (.inl rfl)⟩
  let w : World := ⟨.empty, "", "", none, .epoch⟩
  have hready : (settings (.ofNat 20 3)).Ready w.disk "" := Settings.ready_empty rfl rfl
  have hfirst : Reachable files .empty ⟨w.disk, [ExceptT.run (Command.init (settings (.ofNat 20 3)) true)]⟩ :=
    .step .start (.init ⟨rfl, rfl⟩ true)
  obtain ⟨g₁, hguard₁, -⟩ := hguard (.ofNat 20 3) w.clock
  obtain ⟨w₁, _, next, hready₁, hrecorded, hfails⟩ := hfirst.init_recorded hready hguard₁
  obtain ⟨g₂, hguard₂, hentry⟩ := hguard wallet w₁.clock
  have hready₂ : (settings wallet).Ready w₁.disk ("" ++ Event.linesOf g₁.events) := hready₁.of_files rfl rfl
  obtain ⟨w₂, hinit, hsaved, -⟩ := Command.exists_init hready₂ hguard₂
  have hsecond := (hrecorded.step (.init (s := settings wallet) ⟨rfl, rfl⟩ true)).run_alone
  have hdone : Script.run (ExceptT.run (Command.init (settings wallet) true)) w₁ = (.ok (), w₂) := hinit
  rw [hdone] at hsecond
  have hfailed := hsecond.step (@Step.fail files _ [_] [] _ next _ (.write _ _ full))
  rw [hfails] at hfailed
  have hapart : Disk.placeOf files.trail ≠ Disk.placeOf files.policy := hready.apart
  have hnone : ∀ text, Disk.empty (Disk.placeOf files.policy) ≠ some (.file text) := by
    intro text
    have hnothing : Disk.empty (Disk.placeOf "policy.json") = none := by decide
    rw [hnothing]
    exact (Option.some_ne_none _).symm
  have hlines : EndsLine (Disk.empty.textAt (Disk.placeOf files.trail)) := .inl (Disk.textAt_of_target hready.trail)
  obtain ⟨snapshot, hsnapshot, hrecord⟩ := hfailed.permitted_recorded hapart hnone hlines hsaved.read
  refine ⟨_, _, snapshot, hfailed, rfl, hsaved.read, hsnapshot, ?_, hrecord⟩
  rw [Snapshot.read_text] at hsnapshot
  cases hsnapshot
  exact Snapshot.mem_keys_ofPolicy.mpr hentry

end System

end CallGuard
