import CallGuard.Command.Change
import CallGuard.Proofs.Audit.TrailFile
import CallGuard.Proofs.Guard.Bootstrap

/-! # Commands that change the policy

What `init` and `admin` do on a world where their files can be read and written: the policy file holds the snapshot of a
policy and the file of the trail the lines of events (`Holds`), and both are brought up to date by what was
recorded (`runOn_persist`). -/

namespace CallGuard

/-- The audit trail and the policy are kept in different files. -/
def Settings.FilesApart (s : Settings) : Prop :=
  Disk.placeOf s.auditLog ≠ Disk.placeOf s.policyFile

/-- The policy file holds a policy, and the file of the trail holds events. Both can be written. -/
structure Settings.Holds (s : Settings) (d : Disk) (p : Policy) (events : List Event) : Prop where
  policy : d.Saved s.policyFile (Snapshot.ofPolicy p).text
  trail : d.target s.auditLog = .ok (Disk.placeOf s.auditLog, Event.linesOf events)

/-- Both files can be written: the policy file in folders that are there, the trail behind the text that it holds. -/
structure Settings.Ready (s : Settings) (d : Disk) (log : String) : Prop where
  apart : s.FilesApart
  parents : d.makeParents s.policyFile = .ok d
  policy : ∃ old, d.target s.policyFile = .ok (Disk.placeOf s.policyFile, old)
  trail : d.target s.auditLog = .ok (Disk.placeOf s.auditLog, log)

theorem Settings.Holds.ready {s : Settings} {d : Disk} {p : Policy} {events : List Event} (hapart : s.FilesApart)
    (h : s.Holds d p events) : s.Ready d (Event.linesOf events) := by
  obtain ⟨place, hpolicy, -⟩ := Disk.read_eq_ok.mp h.policy.read
  obtain rfl := Disk.placeOf_of_target hpolicy
  exact ⟨hapart, h.policy.parents, ⟨_, hpolicy⟩, h.trail⟩

theorem Settings.Ready.of_files {s t : Settings} {d : Disk} {log : String} (h : s.Ready d log)
    (hpolicy : t.policyFile = s.policyFile) (hlog : t.auditLog = s.auditLog) : t.Ready d log := by
  obtain ⟨hapart, hparents, hold, htrail⟩ := h
  rw [FilesApart, ← hpolicy, ← hlog] at hapart
  rw [← hpolicy] at hparents hold
  rw [← hlog] at htrail
  exact ⟨hapart, hparents, hold, htrail⟩

/-- In an empty folder both files can be written under their usual names. -/
theorem Settings.ready_empty {s : Settings} (hpolicy : s.policyFile = "policy.json")
    (hlog : s.auditLog = "audit.jsonl") : s.Ready .empty "" := by
  have hplaces : Disk.placeOf "audit.jsonl" ≠ Disk.placeOf "policy.json" := by decide
  have hnames : (Disk.names "policy.json").dropLast = [] := by decide
  refine ⟨?_, ?_, ⟨"", ?_⟩, ?_⟩
  · rw [FilesApart, hpolicy, hlog]
    exact hplaces
  · rw [hpolicy, Disk.makeParents, hnames, Disk.makeFolders]
  · rw [hpolicy]
    simp [Disk.target, Disk.locate]
    rfl
  · rw [hlog]
    simp [Disk.target, Disk.locate]
    rfl

/-- A text of the operator stands for nothing. -/
def Failure.OfText : Failure → Prop
  | .badPayload _ | .badAddress _ _ _ | .badAmount _ _ _ | .badSelector _ _ | .selectorMissing
  | .selectorUnused _ => True
  | _ => False

namespace Command
variable {s : Settings} {w w' w₁ : World} {p : Policy} {g : Guard} {events : List Event} {log : String}

/-- Reading the clock ahead shows what it will show, and changes nothing else. -/
theorem runOn_readClock (events : Nat) (w : World) :
    runOn (readClock events) w = (.ok (w.clock.upTo events), w.ticked events) := by
  induction events generalizing w with
  | zero => rfl
  | succ events ih =>
    have hrest : runOn (readClock events) (w.ticked 1) =
        (.ok ((w.clock.after 1).upTo events), w.ticked (events + 1)) := by
      rw [ih, World.ticked, World.ticked, World.ticked, Clock.after_after, Nat.add_comm]
    rw [readClock, runOn_ask_bind]
    show runOn (readClock events >>= fun rest => pure (Clock.cons (w.clock 0) rest)) (w.ticked 1) = _
    rw [runOn_bind_ok hrest, runOn_pure, Clock.cons_upTo]

theorem runOn_forM_printLine {α : Type} (text : α → String) (xs : List α) (w : World) :
    ∃ printed, runOn (xs.forM fun x => printLine (text x)) w = (.ok (), { w with printed := printed }) := by
  induction xs generalizing w with
  | nil => exact ⟨w.printed, rfl⟩
  | cons x xs ih =>
    obtain ⟨printed, hrest⟩ := ih { w with printed := w.printed ++ (text x ++ "\n") }
    refine ⟨printed, ?_⟩
    show runOn (printLine (text x) >>= fun _ => xs.forM fun x => printLine (text x)) w = _
    rw [runOn_bind_ok (runOn_printLine (text x) w), hrest]

theorem persist_eq (s : Settings) (g : Guard) :
    persist s g = (do
      appendEvents s.auditLog g.events
      save s.policyFile ⟨g.policy, ⟨g.trail.nextSeq, []⟩⟩) :=
  rfl

theorem ready_appended (h : s.Ready w.disk log) (events : List Event) :
    s.Ready (appended w (Disk.placeOf s.auditLog) log events).disk (log ++ Event.linesOf events) := by
  have hkeeps := keepsFolders_appended h.trail events
  obtain ⟨old, hpolicy⟩ := h.policy
  refine ⟨h.apart, Disk.makeFolders_again h.parents hkeeps, ⟨old, ?_⟩, target_appended h.trail events⟩
  exact Disk.target_of_keeps hkeeps (appended_other h.apart.symm w log events) hpolicy

/-- What was recorded is put behind the trail, and the policy is saved. -/
theorem runOn_persist (h : s.Ready w.disk log) (g : Guard) :
    ∃ w', runOn (persist s g) w = (.ok (), w') ∧ w'.disk.Saved s.policyFile g.snapshot.text ∧
      s.Ready w'.disk (log ++ Event.linesOf g.events) := by
  obtain ⟨hapart, hparents, ⟨old, hpolicy⟩, htrail⟩ := ready_appended h g.events
  have hsave := runOn_save_eq_ok (g := ⟨g.policy, ⟨g.trail.nextSeq, []⟩⟩).mpr ⟨_, _, old, hparents, hpolicy, rfl⟩
  have hsaved := saved_of_save hsave
  refine ⟨_, ?_, hsaved, hapart, hsaved.parents, ⟨_, Disk.target_put hpolicy _⟩, ?_⟩
  · rw [persist_eq, runOn_bind_ok (runOn_appendEvents h.trail g.events), hsave]
  · exact Disk.target_of_keeps (Disk.keepsFolders_put (Disk.target_ne_folder hpolicy) _) (Disk.put_other hapart _ _)
      htrail

theorem holds_of_persist (hapart : s.FilesApart) (h : s.Holds w.disk p events) (g : Guard) :
    ∃ w', runOn (persist s g) w = (.ok (), w') ∧ s.Holds w'.disk g.policy (events ++ g.events) := by
  obtain ⟨w', hrun, hsaved, hready⟩ := runOn_persist (h.ready hapart) g
  refine ⟨w', hrun, hsaved, ?_⟩
  rw [Event.linesOf_append]
  exact hready.trail

/-- Where both files are brought up to date, the policy is saved, and the events stand behind what the trail held. -/
theorem saved_of_persist (hapart : s.FilesApart) (h : runOn (persist s g) w = (.ok (), w')) :
    w'.disk.Saved s.policyFile g.snapshot.text ∧
      w'.disk.textAt (Disk.placeOf s.auditLog) =
        w.disk.textAt (Disk.placeOf s.auditLog) ++ Event.linesOf g.events := by
  rw [persist_eq] at h
  obtain ⟨_, w₁, happend, hsave⟩ := runOn_bind_eq_ok.mp h
  refine ⟨saved_of_save hsave, ?_⟩
  obtain ⟨d, place, old, hparents, htarget, rfl⟩ := runOn_save_eq_ok.mp hsave
  obtain rfl := Disk.placeOf_of_target htarget
  -- Saving leaves the text of the trail alone.
  calc (d.put (Disk.placeOf s.policyFile) _).textAt (Disk.placeOf s.auditLog)
    _ = d.textAt (Disk.placeOf s.auditLog) := Disk.textAt_put_other hapart d _
    _ = w₁.disk.textAt (Disk.placeOf s.auditLog) := (Disk.makeFolders_adds hparents).textAt _
    _ = w.disk.textAt (Disk.placeOf s.auditLog) ++ Event.linesOf g.events := textAt_of_appendEvents happend

/-! ## Changes -/

/-- The caller and the operation that texts stand for. -/
def readChange (caller : String) (change : ChangeText) : Except Failure (Address × Operation) := do
  let caller ← readAddress "caller" caller
  let op ← change.read
  return (caller, op)

section
variable {f : Failure}

theorem ofText_readAddress {what text : String} (h : readAddress what text = .error f) : f.OfText := by
  obtain ⟨_, -, rfl⟩ := Outcome.mapError_eq_error.mp h
  trivial

theorem ofText_readPayload {text : String} (h : readPayload text = .error f) : f.OfText := by
  obtain ⟨_, -, rfl⟩ := Outcome.mapError_eq_error.mp h
  trivial

theorem ofText_readKey {k : KeyText} (h : k.read = .error f) : f.OfText := by
  obtain haddress | ⟨address, -, hrest⟩ := Outcome.bind_eq_error.mp h
  · exact ofText_readAddress haddress
  · split at hrest
    · obtain hselector | ⟨_, -, hdone⟩ := Outcome.bind_eq_error.mp hrest
      · obtain ⟨_, -, rfl⟩ := Outcome.mapError_eq_error.mp hselector
        trivial
      · cases hdone
    · cases hrest
      trivial
    · cases hrest
    · cases hrest
      trivial

theorem ofText_changeRead {change : ChangeText} (h : change.read = .error f) : f.OfText := by
  cases change with
  | allow key | remove key =>
    obtain hkey | ⟨_, -, hdone⟩ := Outcome.bind_eq_error.mp h
    · exact ofText_readKey hkey
    · cases hdone
  | whitelistToken token | whitelistRouter router =>
    obtain haddress | ⟨_, -, hdone⟩ := Outcome.bind_eq_error.mp h
    · exact ofText_readAddress haddress
    · cases hdone

theorem ofText_readChange {caller : String} {change : ChangeText} (h : readChange caller change = .error f) :
    f.OfText := by
  obtain hcaller | ⟨_, -, hrest⟩ := Outcome.bind_eq_error.mp h
  · exact ofText_readAddress hcaller
  · obtain hop | ⟨_, -, hdone⟩ := Outcome.bind_eq_error.mp hrest
    · exact ofText_changeRead hop
    · cases hdone

end

section
variable {caller note : String} {change : ChangeText}

theorem confirmRemoval_force (op : Operation) : confirmRemoval op true = pure true := by
  cases op <;> rfl

/-- A guard makes a change, and is kept with a line for each of its events unless it rejects the change. -/
def makeChange (s : Settings) (caller : Address) (op : Operation) (note : String) (guard : Guard) : Command Unit := do
  let (result, guard) := (Guard.perform caller op note (← readClock op.steps.length)).run guard
  ofExcept .violation result
  guard.events.forM fun e => printLine (eventLine e)
  persist s guard

theorem admin_eq (s : Settings) (caller : String) (change : ChangeText) (note : String) (force : Bool) :
    admin s caller change note force = (do
      let caller ← ofExcept id (readAddress "caller" caller)
      let guard ← load s.policyFile
      let op ← ofExcept id change.read
      if ← confirmRemoval op force then makeChange s caller op note guard) :=
  rfl

/-- A change that is rejected leaves everything but the clock as it was. -/
theorem runOn_makeChange (s : Settings) (caller : Address) (op : Operation) (note : String) (g : Guard) (w : World) :
    runOn (makeChange s caller op note g) w =
      match (Guard.perform caller op note w.clock).run g with
      | (.error v, _) => (.error (.violation v), w.ticked op.steps.length)
      | (.ok (), g) =>
        runOn ((g.events.forM fun e => printLine (eventLine e)) >>= fun _ => persist s g)
          (w.ticked op.steps.length) := by
  rw [makeChange, runOn_bind_ok (runOn_readClock _ w), Guard.perform_upTo]
  obtain ⟨_ | _, g⟩ := (Guard.perform caller op note w.clock).run g <;> rfl

/-- A change whose texts stand for nothing is not tried. -/
theorem runOn_admin (h : w.disk.Saved s.policyFile (Snapshot.ofPolicy p).text) (caller : String) (change : ChangeText)
    (note : String) :
    runOn (admin s caller change note true) w =
      match readChange caller change with
      | .error f => (.error f, w)
      | .ok (caller, op) => runOn (makeChange s caller op note (.ofPolicy p)) w := by
  have hload : runOn (load s.policyFile) w = (.ok (.ofPolicy p), w) := load_saved (g := .ofPolicy p) h
  rw [admin_eq, runOn_ofExcept_bind, readChange]
  cases readAddress "caller" caller with
  | error f => rfl
  | ok caller =>
    show runOn (load s.policyFile >>= _) w = _
    rw [runOn_bind_ok hload, runOn_ofExcept_bind]
    cases change.read with
    | error f => rfl
    | ok op =>
      show runOn (confirmRemoval op true >>= _) w = _
      rw [confirmRemoval_force, runOn_bind_ok (runOn_pure true w)]
      rfl

theorem admin_of_holds (hapart : s.FilesApart) (h : s.Holds w.disk p events) (caller : String) (change : ChangeText)
    (note : String) :
    match readChange caller change with
    | .error f => runOn (admin s caller change note true) w = (.error f, w)
    | .ok (caller', op) =>
      match (Guard.perform caller' op note w.clock).run (.ofPolicy p) with
      | (.error v, _) =>
        runOn (admin s caller change note true) w = (.error (.violation v), w.ticked op.steps.length)
      | (.ok (), g) => ∃ w', runOn (admin s caller change note true) w = (.ok (), w') ∧
        s.Holds w'.disk g.policy (events ++ g.events) := by
  have hadmin := runOn_admin h.policy caller change note
  cases hread : readChange caller change with
  | error f => rw [hadmin, hread]
  | ok found =>
    obtain ⟨caller', op⟩ := found
    rw [hread] at hadmin
    simp only [runOn_makeChange] at hadmin ⊢
    rcases hperform : (Guard.perform caller' op note w.clock).run (.ofPolicy p) with ⟨v | _, g⟩
    · rw [hperform] at hadmin
      exact hadmin
    · rw [hperform] at hadmin
      obtain ⟨printed, hprint⟩ := runOn_forM_printLine eventLine g.events (w.ticked op.steps.length)
      obtain ⟨w', hpersist, hholds⟩ :=
        holds_of_persist (w := { w.ticked op.steps.length with printed := printed }) hapart h g
      refine ⟨w', ?_, hholds⟩
      rw [hadmin]
      show runOn ((g.events.forM fun e => printLine (eventLine e)) >>= fun _ => persist s g) _ = _
      rw [runOn_bind_ok hprint, hpersist]

end

/-! ## The policy to begin with -/

/-- Nothing stands in the way of making the policy file anew: it is forced, there is none, or the user agrees. -/
def Cleared (s : Settings) (force : Bool) (w : World) : Prop :=
  force = true ∨ w.disk.isPresent s.policyFile = .ok false ∨
    ∃ keys, w.keys = some keys ∧ (Request.reply keys).1 = true

/-- The policy file is made from the settings, once nothing stands in the way. -/
def makePolicy (s : Settings) : Command Unit := do
  let guard ← ofExcept .settings (s.bootstrapGuard (← readClock s.bootstrap.size))
  persist s guard
  printLine ("\nPolicy initialised: " ++ s.policyFile)
  printLine ("Governance: " ++ guard.owner.checksum)
  printLine ("Call sites: " ++ toString guard.policy.callSites.length)

theorem init_eq (s : Settings) (force : Bool) :
    init s force = (do
      let present ← ofExcept .policyNotFollowed (← ask (.isPresent s.policyFile))
      if present && !force then
        if !(← confirm (s.policyFile ++ " already exists. Overwrite it?")) then return
      makePolicy s) :=
  rfl

theorem persist_of_makePolicy (h : runOn (makePolicy s) w = (.ok (), w')) :
    ∃ g w₀ w₁, s.bootstrapGuard w.clock = .ok g ∧ w₀.disk = w.disk ∧ runOn (persist s g) w₀ = (.ok (), w₁) ∧
      w'.disk = w₁.disk := by
  rw [makePolicy, runOn_bind_ok (runOn_readClock _ w), Guard.bootstrapGuard_upTo, runOn_bind_eq_ok] at h
  obtain ⟨g, w₀, hguard, hrest⟩ := h
  rw [runOn_ofExcept] at hguard
  obtain ⟨hg, rfl⟩ := Prod.mk.inj hguard
  obtain ⟨_, w₁, hpersist, hprint⟩ := runOn_bind_eq_ok.mp hrest
  refine ⟨g, w.ticked s.bootstrap.size, w₁, Outcome.mapError_eq_ok.mp hg, rfl, hpersist, ?_⟩
  cases hprint
  rfl

theorem runOn_confirm (prompt : String) {keys : List Char} (hkeys : w.keys = some keys)
    (hyes : (Request.reply keys).1 = true) :
    runOn (confirm prompt) w = (.ok true, { w with keys := some (Request.reply keys).2 }) := by
  have hanswer : w.answer (.confirm prompt) = (some true, { w with keys := some (Request.reply keys).2 }) := by
    simp only [World.answer, hkeys, hyes]
  rw [confirm, runOn_ask_bind, hanswer]
  rfl

theorem runOn_init {force : Bool} (hcleared : Cleared s force w) (h : runOn (init s force) w = (.ok (), w')) :
    ∃ g w₀ w₁, s.bootstrapGuard w.clock = .ok g ∧ w₀.disk = w.disk ∧ runOn (persist s g) w₀ = (.ok (), w₁) ∧
      w'.disk = w₁.disk := by
  rw [init_eq, runOn_ask_bind, runOn_ofExcept_bind] at h
  cases hpresent : w.disk.isPresent s.policyFile with
  | error fault =>
    have hanswer : (w.answer (.isPresent s.policyFile)).1 = .error fault := hpresent
    rw [hanswer] at h
    cases h
  | ok present =>
    have hanswer : w.answer (.isPresent s.policyFile) = (.ok present, w) := by
      rw [World.answer, hpresent]
    rw [hanswer] at h
    simp only at h
    by_cases hasked : (present && !force) = true
    -- The user is asked only if there is a file and no force, and then agrees.
    · rcases hcleared with hforce | hnone | ⟨keys, hkeys, hyes⟩
      · rw [hforce, Bool.not_true, Bool.and_false] at hasked
        cases hasked
      · rw [hpresent] at hnone
        cases hnone
        cases hasked
      · rw [if_pos hasked, runOn_bind_ok (runOn_confirm _ hkeys hyes)] at h
        exact persist_of_makePolicy (w := { w with keys := some (Request.reply keys).2 }) h
    · rw [if_neg hasked] at h
      exact persist_of_makePolicy h

/-- With force the policy file is made wherever both files can be written. -/
theorem exists_init (h : s.Ready w.disk log) (hguard : s.bootstrapGuard w.clock = .ok g) :
    ∃ w', runOn (init s true) w = (.ok (), w') ∧ w'.disk.Saved s.policyFile g.snapshot.text ∧
      s.Ready w'.disk (log ++ Event.linesOf g.events) := by
  obtain ⟨_, hpolicy⟩ := h.policy
  obtain ⟨present, hpresent⟩ := Disk.isPresent_of_target hpolicy
  have hanswer : w.answer (.isPresent s.policyFile) = (.ok present, w) := by
    rw [World.answer, hpresent]
  have hforced : ¬(present && !true) = true := by simp
  obtain ⟨w₁, hpersist, hsaved, hready⟩ := runOn_persist (w := w.ticked s.bootstrap.size) h g
  have hguard' : runOn (ofExcept .settings (s.bootstrapGuard w.clock)) (w.ticked s.bootstrap.size) =
      (.ok g, w.ticked s.bootstrap.size) := by
    rw [runOn_ofExcept]
    exact Prod.ext (Outcome.mapError_eq_ok.mpr hguard) rfl
  obtain ⟨printed, hprint⟩ : ∃ printed, runOn (do
      printLine ("\nPolicy initialised: " ++ s.policyFile)
      printLine ("Governance: " ++ g.owner.checksum)
      printLine ("Call sites: " ++ toString g.policy.callSites.length)) w₁ =
        (.ok (), { w₁ with printed := printed }) := ⟨_, rfl⟩
  refine ⟨{ w₁ with printed := printed }, ?_, hsaved, hready⟩
  rw [init_eq, runOn_ask_bind, runOn_ofExcept_bind, hanswer]
  simp only [if_neg hforced]
  rw [makePolicy, runOn_bind_ok (runOn_readClock _ w), Guard.bootstrapGuard_upTo, runOn_bind_ok hguard',
    runOn_bind_ok hpersist, hprint]

/-- A policy file that was made holds the policy to begin with, and the file of the trail its events. -/
theorem holds_of_init {force : Bool} (hapart : s.FilesApart) (hempty : w.disk.textAt (Disk.placeOf s.auditLog) = "")
    (hcleared : Cleared s force w) (hinit : runOn (init s force) w = (.ok (), w'))
    (htrail : ∃ found, w'.disk.target s.auditLog = .ok found) :
    ∃ g, s.bootstrapGuard w.clock = .ok g ∧ s.Holds w'.disk g.policy g.events := by
  obtain ⟨g, w₀, w₁, hguard, hdisk₀, hpersist, hdisk₁⟩ := runOn_init hcleared hinit
  obtain ⟨hsaved, htext⟩ := saved_of_persist hapart hpersist
  rw [hdisk₀, hempty, String.empty_append, ← hdisk₁] at htext
  obtain ⟨⟨place, text⟩, htarget⟩ := htrail
  obtain rfl := Disk.placeOf_of_target htarget
  refine ⟨g, hguard, hdisk₁ ▸ hsaved, ?_⟩
  rw [htarget, ← htext, Disk.textAt_of_target htarget]

end Command

end CallGuard
