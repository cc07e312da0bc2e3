import CallGuard.Command.Show
import CallGuard.Proofs.Command.Interleaving

/-! # Commands that fail

A request on files may fail at any time; it has then written nothing. A run of a command is what answers of this kind
make of it and of the disk (`Ends`), and running it on a described world is one of its runs (`ends_runOn`). Until the
events are appended a command only looks at the disk (`Looks`), so whatever fails, the files stay as they were; only
where the policy cannot be saved, the events of its change are left in the audit trail (`keepsFiles`). -/

namespace CallGuard

namespace Disk

/-- The text of the file at a place, if there is one. -/
def file? (d : Disk) (place : Location) : Option String :=
  match d place with
  | some (.file text) => some text
  | _ => none

theorem file?_put_other {place other : Location} (h : other ≠ place) (d : Disk) (item : Item) :
    (d.put place item).file? other = d.file? other := by
  rw [file?, put_other h, file?]

theorem AddsFolders.file?_eq {d d' : Disk} (h : AddsFolders d d') (place : Location) :
    d'.file? place = d.file? place := by
  rw [file?, file?]
  rcases h place with hsame | ⟨hnone, hfolder⟩
  · rw [hsame]
  · rw [hnone, hfolder]

end Disk

/-! ## Runs in which requests may fail -/

/-- How a request may be answered on a disk, and the disk that this leaves: as in some world with the disk, or by a
    failure without an effect. Folders may be made before making folders fails. -/
inductive Request.Answers (d : Disk) : (r : Request) → r.Answer → Disk → Prop
  | world (w : World) (hdisk : w.disk = d) (r : Request) : Answers d r (w.answer r).1 (w.answer r).2.disk
  | fail {r : Request} {answer : r.Answer} (h : r.Fails answer) : Answers d r answer d
  | folders {d' : Disk} (h : Disk.AddsFolders d d') (path : String) (fault : OsFault) :
    Answers d (.makeParents path) (.error fault) d'

/-- A request that is no change of the disk. -/
def Request.Looks : Request → Prop
  | .append _ _ => False
  | .makeParents _ => False
  | .write _ _ => False
  | _ => True

/-- A script can come to a result and leave a disk. -/
def Script.Ends {α : Type} : Script α → Disk → α → Disk → Prop
  | .done a, d, result, d' => result = a ∧ d' = d
  | .ask r next, d, result, d' => ∃ answer d₁, r.Answers d answer d₁ ∧ (next answer).Ends d₁ result d'

namespace Request.Answers
variable {d d' : Disk} {path text : String}

/-- What only looks at the disk leaves it as it is. -/
theorem disk_of_looks {r : Request} {answer : r.Answer} (h : r.Answers d answer d') (hlooks : r.Looks) : d' = d := by
  cases h with
  | world w hdisk =>
    subst hdisk
    cases r with
    | append | makeParents | write => exact hlooks.elim
    | confirm prompt =>
      rw [World.answer]
      split <;> rfl
    | _ => rfl
  | fail => rfl
  | folders => exact hlooks.elim

theorem read {answer : Except OsFault String} (h : Answers d (.read path) answer d') (hok : answer = .ok text) :
    d.read path = .ok text := by
  cases h with
  | world w hdisk =>
    subst hdisk
    exact hok
  | fail h =>
    cases h
    cases hok

/-- A change of the disk is made, or the disk is left as it is. -/
theorem changeDisk_cases (w : World) (result : Except OsFault Disk) :
    (∃ fault, (w.changeDisk result).1 = .error fault) ∧ (w.changeDisk result).2.disk = w.disk ∨
      (w.changeDisk result).1 = .ok () ∧ result = .ok (w.changeDisk result).2.disk := by
  cases result with
  | error fault => exact .inl ⟨⟨fault, rfl⟩, rfl⟩
  | ok disk => exact .inr ⟨rfl, rfl⟩

theorem append {answer : Except OsFault Unit} (h : Answers d (.append path text) answer d') :
    (∃ fault, answer = .error fault) ∧ d' = d ∨ answer = .ok () ∧ d.append path text = .ok d' := by
  cases h with
  | world w hdisk =>
    subst hdisk
    exact changeDisk_cases w _
  | fail h =>
    cases h
    exact .inl ⟨⟨_, rfl⟩, rfl⟩

theorem write {answer : Except OsFault Unit} (h : Answers d (.write path text) answer d') :
    (∃ fault, answer = .error fault) ∧ d' = d ∨ answer = .ok () ∧ d.write path text = .ok d' := by
  cases h with
  | world w hdisk =>
    subst hdisk
    exact changeDisk_cases w _
  | fail h =>
    cases h
    exact .inl ⟨⟨_, rfl⟩, rfl⟩

theorem makeParents {answer : Except OsFault Unit} (h : Answers d (.makeParents path) answer d') :
    Disk.AddsFolders d d' := by
  cases h with
  | world w hdisk =>
    subst hdisk
    rcases changeDisk_cases w (w.disk.makeParents path) with ⟨-, hsame⟩ | ⟨-, hmade⟩
    · exact fun place => .inl (congrFun hsame place)
    · exact Disk.makeFolders_adds hmade
  | fail => exact fun _ => .inl rfl
  | folders h => exact h

end Request.Answers

namespace Script
variable {α β : Type} {d d' : Disk}

theorem ends_bind {script : Script α} {f : α → Script β} {b : β} :
    (script.bind f).Ends d b d' ↔ ∃ a d₁, script.Ends d a d₁ ∧ (f a).Ends d₁ b d' := by
  induction script generalizing d with
  | done a =>
    constructor
    · exact fun h => ⟨a, d, ⟨rfl, rfl⟩, h⟩
    · rintro ⟨_, _, ⟨rfl, rfl⟩, h⟩
      exact h
  | ask r next ih =>
    constructor
    · rintro ⟨answer, d₁, hanswer, h⟩
      obtain ⟨a, d₂, hfirst, hrest⟩ := (ih answer).mp h
      exact ⟨a, d₂, ⟨answer, d₁, hanswer, hfirst⟩, hrest⟩
    · rintro ⟨a, d₂, ⟨answer, d₁, hanswer, hfirst⟩, hrest⟩
      exact ⟨answer, d₁, hanswer, (ih answer).mpr ⟨a, d₂, hfirst, hrest⟩⟩

/-- What a script does on a world is one of the things that it can do on its disk. -/
theorem ends_run (script : Script α) (w : World) : script.Ends w.disk (script.run w).1 (script.run w).2.disk := by
  induction script generalizing w with
  | done a => exact ⟨rfl, rfl⟩
  | ask r next ih => exact ⟨_, _, .world w rfl r, ih _ (w.answer r).2⟩

end Script

/-- It was the policy file that could not be written. -/
def Failure.InSaving (f : Failure) : Prop :=
  ∃ path fault, f = .policyNotSaved path fault

theorem Failure.OfText.not_inSaving {f : Failure} (h : f.OfText) : ¬ f.InSaving := by
  rintro ⟨_, _, rfl⟩
  exact h

namespace Command
variable {α β ε : Type} {d d' : Disk} {f : Failure}

/-- A command can come to a result and leave a disk. -/
def Ends (command : Command α) (d : Disk) (result : Except Failure α) (d' : Disk) : Prop :=
  Script.Ends (ExceptT.run command) d result d'

/-- Running a command on a world is one of its runs. -/
theorem ends_runOn (command : Command α) (w : World) :
    Ends command w.disk (runOn command w).1 (runOn command w).2.disk :=
  Script.ends_run (ExceptT.run command) w

theorem ends_of_runOn {command : Command α} {w w' : World} {result : Except Failure α}
    (h : runOn command w = (result, w')) : Ends command w.disk result w'.disk := by
  have hends := ends_runOn command w
  rw [h] at hends
  exact hends

theorem ends_pure {a : α} {result : Except Failure α} : Ends (pure a) d result d' ↔ result = .ok a ∧ d' = d :=
  Iff.rfl

theorem ends_throw {result : Except Failure α} : Ends (throw f) d result d' ↔ result = .error f ∧ d' = d :=
  Iff.rfl

theorem ends_bind {command : Command α} {next : α → Command β} {result : Except Failure β} :
    Ends (command >>= next) d result d' ↔
      (∃ f, result = .error f ∧ Ends command d (.error f) d') ∨
        ∃ a d₁, Ends command d (.ok a) d₁ ∧ Ends (next a) d₁ result d' := by
  show (Script.bind (ExceptT.run command) (ExceptT.bindCont next)).Ends d result d' ↔ _
  rw [Script.ends_bind]
  constructor
  · rintro ⟨f | a, d₁, hfirst, hrest⟩
    · obtain ⟨rfl, rfl⟩ := hrest
      exact .inl ⟨f, rfl, hfirst⟩
    · exact .inr ⟨a, d₁, hfirst, hrest⟩
  · rintro (⟨f, rfl, hfirst⟩ | ⟨a, d₁, hfirst, hrest⟩)
    · exact ⟨.error f, d', hfirst, rfl, rfl⟩
    · exact ⟨.ok a, d₁, hfirst, hrest⟩

theorem ends_bind_ok {command : Command α} {next : α → Command β} {a : α} {d₁ : Disk} {result : Except Failure β}
    (h : Ends command d (.ok a) d₁) (hrest : Ends (next a) d₁ result d') : Ends (command >>= next) d result d' :=
  ends_bind.mpr (.inr ⟨a, d₁, h, hrest⟩)

theorem ends_ask_bind {r : Request} {next : r.Answer → Command β} {result : Except Failure β} :
    Ends (ask r >>= next) d result d' ↔ ∃ answer d₁, r.Answers d answer d₁ ∧ Ends (next answer) d₁ result d' :=
  Iff.rfl

theorem ends_ofExcept {failure : ε → Failure} {result : Except ε α} {outcome : Except Failure α} :
    Ends (ofExcept failure result) d outcome d' ↔ outcome = result.mapError failure ∧ d' = d := by
  cases result with
  | ok a => exact ends_pure
  | error e => exact ends_throw

theorem ends_ok {failure : ε → Failure} {result : Except ε α} {a : α} (h : result = .ok a) :
    Ends (ofExcept failure result) d (.ok a) d := by
  rw [h]
  exact ends_pure.mpr ⟨rfl, rfl⟩

theorem ends_printLine {text : String} {result : Except Failure Unit} (h : Ends (printLine text) d result d') :
    result = .ok () ∧ d' = d := by
  obtain ⟨_, d₁, hanswer, rfl, rfl⟩ := h
  exact ⟨rfl, hanswer.disk_of_looks trivial⟩

/-! ## Looking at the disk -/

/-- Whatever a command comes to, it leaves the disk as it is, and it does not fail in saving. -/
def Looks (command : Command α) : Prop :=
  ∀ d result d', Ends command d result d' → d' = d ∧ ∀ f, result = .error f → ¬ f.InSaving

theorem looks_pure (a : α) : Looks (pure a : Command α) := by
  rintro d _ _ ⟨rfl, rfl⟩
  exact ⟨rfl, nofun⟩

theorem looks_throw (h : ¬ f.InSaving) : Looks (throw f : Command α) := by
  rintro d _ _ ⟨rfl, rfl⟩
  exact ⟨rfl, fun f' hf => Except.error.inj hf ▸ h⟩

theorem looks_bind {command : Command α} {next : α → Command β} (h : Looks command) (hnext : ∀ a, Looks (next a)) :
    Looks (command >>= next) := by
  intro d result d' hends
  rcases ends_bind.mp hends with ⟨f, rfl, hfail⟩ | ⟨a, d₁, hfirst, hrest⟩
  · obtain ⟨hdisk, hsaving⟩ := h d _ d' hfail
    exact ⟨hdisk, fun f' hf => hsaving f' (Except.error.inj hf ▸ rfl)⟩
  · obtain ⟨rfl, -⟩ := h d _ d₁ hfirst
    exact hnext a _ result d' hrest

theorem looks_ask_bind {r : Request} {next : r.Answer → Command β} (h : r.Looks)
    (hnext : ∀ answer, Looks (next answer)) : Looks (ask r >>= next) := by
  rintro d result d' ⟨answer, d₁, hanswer, hrest⟩
  obtain rfl := hanswer.disk_of_looks h
  exact hnext answer _ result d' hrest

theorem looks_ofExcept {failure : ε → Failure} {result : Except ε α}
    (h : ∀ e, result = .error e → ¬ (failure e).InSaving) : Looks (ofExcept failure result) := by
  cases result with
  | ok a => exact looks_pure a
  | error e => exact looks_throw (h e rfl)

theorem looks_printLine (text : String) : Looks (printLine text) := by
  intro d result d' h
  obtain ⟨rfl, rfl⟩ := ends_printLine h
  exact ⟨rfl, nofun⟩

theorem looks_forM_printLine (text : α → String) (xs : List α) : Looks (xs.forM fun x => printLine (text x)) := by
  induction xs with
  | nil => exact looks_pure ()
  | cons x xs ih => exact looks_bind (looks_printLine (text x)) fun _ => ih

theorem looks_readClock (events : Nat) : Looks (readClock events) := by
  induction events with
  | zero => exact looks_pure _
  | succ events ih => exact looks_ask_bind trivial fun _ => looks_bind ih fun _ => looks_pure _

theorem looks_confirm (prompt : String) : Looks (confirm prompt) := by
  refine looks_ask_bind trivial fun answer => ?_
  cases answer with
  | none => exact looks_throw nofun
  | some yes => exact looks_pure yes

theorem looks_confirmRemoval (op : Operation) (force : Bool) : Looks (confirmRemoval op force) := by
  unfold confirmRemoval
  split
  · split
    · exact looks_pure true
    · exact looks_confirm _
  · exact looks_pure true

theorem looks_load (path : String) : Looks (load path) := by
  refine looks_ask_bind trivial fun present => looks_bind (looks_ofExcept fun _ _ => nofun) fun present => ?_
  cases present with
  | false => exact looks_throw nofun
  | true =>
    refine looks_ask_bind trivial fun text => looks_bind (looks_ofExcept fun _ _ => nofun) fun text => ?_
    exact looks_ofExcept fun _ _ => nofun

/-- What can be loaded stands in the file. -/
theorem read_of_load {path : String} {g : Guard} (h : Ends (load path) d (.ok g) d') :
    ∃ text, d.read path = .ok text ∧ Guard.restore text = .ok g := by
  obtain ⟨answer, d₁, hpresent, hrest⟩ := ends_ask_bind.mp h
  obtain rfl := hpresent.disk_of_looks trivial
  obtain ⟨_, hfail, -⟩ | ⟨present, d₂, hok, hload⟩ := ends_bind.mp hrest
  · cases hfail
  obtain ⟨-, rfl⟩ := ends_ofExcept.mp hok
  cases present with
  | false => cases (ends_throw.mp hload).1
  | true =>
    obtain ⟨answer, d₃, hread, hread'⟩ := ends_ask_bind.mp hload
    obtain rfl := hread.disk_of_looks trivial
    obtain ⟨_, hfail, -⟩ | ⟨text, d₄, hok, hrestore⟩ := ends_bind.mp hread'
    · cases hfail
    obtain ⟨hanswer, rfl⟩ := ends_ofExcept.mp hok
    obtain ⟨hguard, -⟩ := ends_ofExcept.mp hrestore
    exact ⟨text, hread.read (Outcome.mapError_eq_ok.mp hanswer.symm), Outcome.mapError_eq_ok.mp hguard.symm⟩

/-- The payload of a call is checked without touching the disk. -/
theorem looks_check (s : Settings) (sender target data : String) : Looks (check s sender target data) := by
  refine looks_bind (looks_ofExcept fun _ h => (ofText_readAddress h).not_inSaving) fun sender => ?_
  refine looks_bind (looks_ofExcept fun _ h => (ofText_readAddress h).not_inSaving) fun target => ?_
  refine looks_bind (looks_ofExcept fun _ h => (ofText_readPayload h).not_inSaving) fun data => ?_
  refine looks_bind (looks_load s.policyFile) fun g => ?_
  exact looks_bind (looks_printLine _) fun _ => looks_pure _

/-- Where what comes first only looks at the disk, a sequence fails there or in the rest. -/
theorem fails_bind {command : Command α} {next : α → Command β} (hlooks : Looks command)
    (h : Ends (command >>= next) d (.error f) d') :
    (d' = d ∧ ¬ f.InSaving) ∨ ∃ a, Ends command d (.ok a) d ∧ Ends (next a) d (.error f) d' := by
  rcases ends_bind.mp h with ⟨f', hf, hfail⟩ | ⟨a, d₁, hfirst, hrest⟩
  · cases hf
    obtain ⟨hdisk, hsaving⟩ := hlooks d _ d' hfail
    exact .inl ⟨hdisk, hsaving f rfl⟩
  · obtain ⟨rfl, -⟩ := hlooks d _ d₁ hfirst
    exact .inr ⟨a, hfirst, hrest⟩

/-- A sequence that begins with a result fails by it, or goes on with its value. -/
theorem fails_ofExcept_bind {failure : ε → Failure} {result : Except ε α} {next : α → Command β}
    (h : Ends (ofExcept failure result >>= next) d (.error f) d')
    (hfailure : ∀ e, result = .error e → ¬ (failure e).InSaving) :
    (d' = d ∧ ¬ f.InSaving) ∨ ∃ a, result = .ok a ∧ Ends (next a) d (.error f) d' := by
  rcases fails_bind (looks_ofExcept hfailure) h with hfail | ⟨a, hok, hrest⟩
  · exact .inl hfail
  · exact .inr ⟨a, Outcome.mapError_eq_ok.mp (ends_ofExcept.mp hok).1.symm, hrest⟩

/-- A sequence that begins with a request for nothing but a look fails in the rest. -/
theorem fails_ask_bind {r : Request} {next : r.Answer → Command β} (h : Ends (ask r >>= next) d (.error f) d')
    (hlooks : r.Looks) : ∃ answer, Ends (next answer) d (.error f) d' := by
  obtain ⟨answer, d₁, hanswer, hrest⟩ := ends_ask_bind.mp h
  obtain rfl := hanswer.disk_of_looks hlooks
  exact ⟨answer, hrest⟩

/-! ## What is left of a change that fails -/

/-- What a command that makes a guard leaves of the files when it fails. -/
structure Leaves (s : Settings) (made : Guard → Prop) (f : Failure) (d d' : Disk) : Prop where
  /-- The policy file is as it was. -/
  policy : d'.file? (Disk.placeOf s.policyFile) = d.file? (Disk.placeOf s.policyFile)
  /-- Unless it is saving that fails, nothing on the disk is changed. -/
  untouched : ¬ f.InSaving → d' = d
  /-- Where saving fails, the events of the guard stand in the audit trail behind what was there, and no other file is
      changed. -/
  recorded : f.InSaving → ∃ g, made g ∧
    d'.textAt (Disk.placeOf s.auditLog) = d.textAt (Disk.placeOf s.auditLog) ++ Event.linesOf g.events ∧
    ∀ place, place ≠ Disk.placeOf s.auditLog ∨ g.events = [] → d'.file? place = d.file? place

section
variable {s : Settings} {made : Guard → Prop} {g : Guard}

/-- A failure before anything is written. -/
theorem Leaves.of_looks (h : d' = d ∧ ¬ f.InSaving) : Leaves s made f d d' where
  policy := by rw [h.1]
  untouched _ := h.1
  recorded hsaving := absurd hsaving h.2

/-- Appending events does it as a whole, or fails and leaves the disk as it is. -/
theorem ends_appendEvents {path : String} {events : List Event} {result : Except Failure Unit}
    (h : Ends (appendEvents path events) d result d') :
    ((∃ f, result = .error f ∧ ¬ f.InSaving) ∧ d' = d) ∨
      result = .ok () ∧ (events = [] ∧ d' = d ∨ events ≠ [] ∧ d.append path (Event.linesOf events) = .ok d') := by
  cases events with
  | nil =>
    obtain ⟨rfl, rfl⟩ := ends_pure.mp h
    exact .inr ⟨rfl, .inl ⟨rfl, rfl⟩⟩
  | cons e rest =>
    obtain ⟨answer, d₁, hanswer, h⟩ := ends_ask_bind.mp h
    obtain ⟨rfl, rfl⟩ := ends_ofExcept.mp h
    rcases hanswer.append with ⟨⟨fault, rfl⟩, hdisk⟩ | ⟨rfl, happend⟩
    · exact .inl ⟨⟨_, rfl, nofun⟩, hdisk⟩
    · exact .inr ⟨rfl, .inr ⟨List.cons_ne_nil e rest, happend⟩⟩

/-- Saving fails after nothing but folders were made. -/
theorem fails_save {path : String} (h : Ends (save path g) d (.error f) d') : f.InSaving ∧ Disk.AddsFolders d d' := by
  obtain ⟨parents, d₁, hparents, hrest⟩ := ends_ask_bind.mp h
  have hadds := hparents.makeParents
  have hsaving : ∀ {result : Except OsFault Unit}, Except.error f = result.mapError (.policyNotSaved path) →
      f.InSaving := by
    intro result hresult
    obtain ⟨fault, -, hf⟩ := Outcome.mapError_eq_error.mp hresult.symm
    exact ⟨path, fault, hf.symm⟩
  rcases ends_bind.mp hrest with ⟨_, hf, hfail⟩ | ⟨_, d₂, hok, hput⟩
  · cases hf
    obtain ⟨hf, rfl⟩ := ends_ofExcept.mp hfail
    exact ⟨hsaving hf, hadds⟩
  · obtain ⟨-, rfl⟩ := ends_ofExcept.mp hok
    obtain ⟨answer, d₃, hwrite, hlast⟩ := ends_ask_bind.mp hput
    obtain ⟨hf, rfl⟩ := ends_ofExcept.mp hlast
    rcases hwrite.write with ⟨-, rfl⟩ | ⟨rfl, -⟩
    · exact ⟨hsaving hf, hadds⟩
    · cases hf

/-- Writing a guard that was made fails without an effect, or after its events were appended. -/
theorem leaves_of_persist (hapart : s.FilesApart) (hmade : made g) (h : Ends (persist s g) d (.error f) d') :
    Leaves s made f d d' := by
  rw [persist_eq] at h
  rcases ends_bind.mp h with ⟨_, hf, hfail⟩ | ⟨_, d₁, hok, hsave⟩
  · cases hf
    rcases ends_appendEvents hfail with ⟨⟨_, hf, hsaving⟩, hdisk⟩ | ⟨hf, -⟩
    · cases hf
      exact Leaves.of_looks ⟨hdisk, hsaving⟩
    · cases hf
  · obtain ⟨hsaving, hadds⟩ := fails_save hsave
    rcases ends_appendEvents hok with ⟨⟨_, hf, -⟩, -⟩ | ⟨-, ⟨hnone, rfl⟩ | ⟨hsome, happend⟩⟩
    · cases hf
    · refine ⟨hadds.file?_eq _, absurd hsaving, fun _ => ⟨g, hmade, ?_, fun place _ => hadds.file?_eq place⟩⟩
      rw [hadds.textAt, hnone]
      exact String.append_empty.symm
    · obtain ⟨place, old, htarget, rfl⟩ := Disk.append_eq_ok.mp happend
      obtain rfl := Disk.placeOf_of_target htarget
      have hother : ∀ place, place ≠ Disk.placeOf s.auditLog → d'.file? place = d.file? place := fun place hplace =>
        (hadds.file?_eq place).trans (Disk.file?_put_other hplace d _)
      refine ⟨hother _ hapart.symm, absurd hsaving, fun _ => ⟨g, hmade, ?_, fun place hplace => ?_⟩⟩
      · rw [hadds.textAt, Disk.textAt_put_same, Disk.textAt_of_target htarget]
      · exact hother place (hplace.resolve_right hsome)

/-! ## Changes -/

/-- The guard that a change makes of the stored one. -/
def Changes (s : Settings) (caller : String) (change : ChangeText) (note : String) (d : Disk) (g : Guard) : Prop :=
  ∃ text stored caller' op clock, d.read s.policyFile = .ok text ∧ Guard.restore text = .ok stored ∧
    readChange caller change = .ok (caller', op) ∧ (Guard.perform caller' op note clock).run stored = (.ok (), g)

/-- A change that the guard rejects is not written. -/
theorem leaves_of_makeChange (hapart : s.FilesApart) {caller : Address} {op : Operation} {note : String}
    {stored : Guard} (hmade : ∀ clock g, (Guard.perform caller op note clock).run stored = (.ok (), g) → made g)
    (h : Ends (makeChange s caller op note stored) d (.error f) d') : Leaves s made f d d' := by
  rcases fails_bind (looks_readClock op.steps.length) h with hfail | ⟨clock, -, hrest⟩
  · exact Leaves.of_looks hfail
  specialize hmade clock
  generalize (Guard.perform caller op note clock).run stored = outcome at hmade hrest
  obtain ⟨result, g⟩ := outcome
  rcases fails_ofExcept_bind hrest fun _ _ => nofun with hfail | ⟨_, rfl, hrest⟩
  · exact Leaves.of_looks hfail
  rcases fails_bind (looks_forM_printLine eventLine g.events) hrest with hfail | ⟨_, -, hpersist⟩
  · exact Leaves.of_looks hfail
  · exact leaves_of_persist hapart (hmade g rfl) hpersist

theorem leaves_of_admin (hapart : s.FilesApart) {caller note : String} {change : ChangeText} {force : Bool}
    (h : Ends (admin s caller change note force) d (.error f) d') :
    Leaves s (Changes s caller change note d) f d d' := by
  rw [admin_eq] at h
  rcases fails_ofExcept_bind h fun _ he => (ofText_readAddress he).not_inSaving with hfail | ⟨caller', hcaller, hrest⟩
  · exact Leaves.of_looks hfail
  rcases fails_bind (looks_load s.policyFile) hrest with hfail | ⟨stored, hload, hrest⟩
  · exact Leaves.of_looks hfail
  rcases fails_ofExcept_bind hrest fun _ he => (ofText_changeRead he).not_inSaving with hfail | ⟨op, hop, hrest⟩
  · exact Leaves.of_looks hfail
  rcases fails_bind (looks_confirmRemoval op force) hrest with hfail | ⟨yes, -, hrest⟩
  · exact Leaves.of_looks hfail
  cases yes with
  | false => cases (ends_pure.mp hrest).1
  | true =>
    refine leaves_of_makeChange hapart (fun clock g hg => ?_) hrest
    obtain ⟨text, hread, hrestore⟩ := read_of_load hload
    have hchange : readChange caller change = .ok (caller', op) :=
      Outcome.bind_eq_ok.mpr ⟨caller', hcaller, Outcome.bind_eq_ok.mpr ⟨op, hop, rfl⟩⟩
    exact ⟨text, stored, caller', op, clock, hread, hrestore, hchange, hg⟩

/-- Once the policy to begin with is written, nothing fails. -/
theorem leaves_of_makePolicy (hapart : s.FilesApart) (h : Ends (makePolicy s) d (.error f) d') :
    Leaves s (fun g => ∃ clock, s.bootstrapGuard clock = .ok g) f d d' := by
  rcases fails_bind (looks_readClock s.bootstrap.size) h with hfail | ⟨clock, -, hmake⟩
  · exact Leaves.of_looks hfail
  rcases fails_ofExcept_bind hmake fun _ _ => nofun with hfail | ⟨g, hguard, hrest⟩
  · exact Leaves.of_looks hfail
  rcases ends_bind.mp hrest with ⟨_, hf, hfail⟩ | ⟨_, d₁, -, hprint⟩
  · cases hf
    exact leaves_of_persist hapart ⟨clock, hguard⟩ hfail
  · obtain ⟨_, _, -, _, _, -, _, _, -, hlast⟩ := hprint
    cases hlast.1

theorem leaves_of_init (hapart : s.FilesApart) {force : Bool} (h : Ends (init s force) d (.error f) d') :
    Leaves s (fun g => ∃ clock, s.bootstrapGuard clock = .ok g) f d d' := by
  rw [init_eq] at h
  obtain ⟨answer, hfollow⟩ := fails_ask_bind h trivial
  rcases fails_ofExcept_bind hfollow fun _ _ => nofun with hfail | ⟨present, -, hrest⟩
  · exact Leaves.of_looks hfail
  split at hrest
  · rcases fails_bind (looks_confirm _) hrest with hfail | ⟨yes, -, hanswered⟩
    · exact Leaves.of_looks hfail
    · cases yes with
      | false => cases (ends_pure.mp hanswered).1
      | true => exact leaves_of_makePolicy hapart hanswered
  · exact leaves_of_makePolicy hapart hrest

end

/-- Whatever fails, a command leaves the files as they were, but for the events of a change that could not be saved. -/
structure KeepsFiles (s : Settings) : Prop where
  /-- What a command does on a described world is one of its runs. -/
  described : ∀ {α : Type} (command : Command α) (w : World),
    Ends command w.disk (runOn command w).1 (runOn command w).2.disk
  admin : ∀ caller change note force d f d', Ends (admin s caller change note force) d (.error f) d' →
    Leaves s (Changes s caller change note d) f d d'
  init : ∀ force d f d', Ends (init s force) d (.error f) d' →
    Leaves s (fun g => ∃ clock, s.bootstrapGuard clock = .ok g) f d d'
  check : ∀ sender target data d result d', Ends (check s sender target data) d result d' → d' = d
  /-- Each of the events that are left has a line of its own. -/
  lines : ∀ events, piecesOf (Event.linesOf events) = events.map Event.text ++ [""]

theorem keepsFiles {s : Settings} (hapart : s.FilesApart) : KeepsFiles s where
  described := ends_runOn
  admin _ _ _ _ _ _ _ := leaves_of_admin hapart
  init _ _ _ _ := leaves_of_init hapart
  check sender target data d result d' h := (looks_check s sender target data d result d' h).1
  lines := Event.piecesOf_linesOf

/-- A change that can be made can also fail in saving, once its events are appended. -/
theorem exists_admin_unsaved {s : Settings} {w : World} {p : Policy} {g : Guard} {caller note old : String}
    {change : ChangeText} {caller' : Address} {op : Operation} {force : Bool}
    (hstored : w.disk.Saved s.policyFile (Snapshot.ofPolicy p).text)
    (hchange : readChange caller change = .ok (caller', op)) (hop : confirmRemoval op force = pure true)
    (hperform : (Guard.perform caller' op note w.clock).run (.ofPolicy p) = (.ok (), g))
    (htrail : w.disk.target s.auditLog = .ok (Disk.placeOf s.auditLog, old)) (fault : OsFault) :
    ∃ d', Ends (admin s caller change note force) w.disk (.error (.policyNotSaved s.policyFile fault)) d' := by
  obtain ⟨_, hcaller, hrest⟩ := Outcome.bind_eq_ok.mp hchange
  obtain ⟨_, hread, hpair⟩ := Outcome.bind_eq_ok.mp hrest
  cases hpair
  have hload : Ends (load s.policyFile) w.disk (.ok (.ofPolicy p)) w.disk :=
    ends_of_runOn (load_saved (g := .ofPolicy p) hstored)
  have hasked : Ends (confirmRemoval op force) w.disk (.ok true) w.disk := by
    rw [hop]
    exact ends_pure.mpr ⟨rfl, rfl⟩
  obtain ⟨printed, hprinted⟩ := runOn_forM_printLine eventLine g.events (w.ticked op.steps.length)
  obtain ⟨d', hpersist⟩ : ∃ d', Ends (persist s g) w.disk (.error (.policyNotSaved s.policyFile fault)) d' := by
    let d' := (appended w (Disk.placeOf s.auditLog) old g.events).disk
    refine ⟨d', ends_bind_ok (ends_of_runOn (runOn_appendEvents htrail g.events)) ?_⟩
    refine ends_ask_bind.mpr ⟨.error fault, _, .fail (.makeParents _ fault), ?_⟩
    exact ends_bind.mpr (.inl ⟨_, rfl, ends_throw.mpr ⟨rfl, rfl⟩⟩)
  have hmake : Ends (makeChange s caller' op note (.ofPolicy p)) w.disk
      (.error (.policyNotSaved s.policyFile fault)) d' := by
    refine ends_bind_ok (ends_of_runOn (runOn_readClock op.steps.length w)) ?_
    rw [Guard.perform_upTo, hperform]
    exact ends_bind_ok (ends_ok rfl) (ends_bind_ok (ends_of_runOn hprinted) hpersist)
  rw [admin_eq]
  refine ⟨d', ends_bind_ok (ends_ok hcaller) (ends_bind_ok hload (ends_bind_ok (ends_ok hread) ?_))⟩
  exact ends_bind_ok hasked hmake

/-- A wallet is allowed, and the policy cannot be saved: the policy file is as it was, and the event is left. -/
theorem keepsFiles_unsaved :
    let owner : Address := .ofNat 20 1
    let wallet : Address := .ofNat 20 2
    let s : Settings := { governance := owner.toHex }
    let change : ChangeText := .allow ⟨.sender, wallet.toHex, none⟩
    let stored : Snapshot := .ofPolicy (.empty owner)
    ∃ d d' f g, s.FilesApart ∧ d.read s.policyFile = .ok stored.text ∧
      Ends (admin s owner.toHex change "a" true) d (.error f) d' ∧ Changes s owner.toHex change "a" d g ∧
      d'.file? ["policy.json"] = some stored.text ∧ d'.textAt ["audit.jsonl"] = Event.linesOf g.events := by
  intro owner wallet s change stored
  let w : World := ⟨.empty, "", "", none, .epoch⟩
  have hread : ∀ n, Address.read (Octets.ofNat 20 n).toHex = .ok (Octets.ofNat 20 n) := fun n => Octets.read_toHex _
  have hempty : s.Ready w.disk "" := Settings.ready_empty rfl rfl
  obtain ⟨w₁, -, hsaved, hapart, -, -, htrail⟩ := exists_init hempty (Guard.bootstrapGuard_of_senders owner [] w.clock)
  have hchange : readChange owner.toHex change = .ok (owner, .allow (.sender wallet)) := by
    simp only [readChange, readAddress, ChangeText.read, KeyText.read, change, owner, wallet, hread]
    rfl
  have hforced : confirmRemoval (.allow (.sender wallet)) true = pure true := rfl
  have hperform : (Guard.perform owner (.allow (.sender wallet)) "a" w₁.clock).run (.new owner) =
    (.ok (), (Guard.new owner).enter "a" (w₁.clock 0) (.approved, .sender wallet)) := rfl
  obtain ⟨d', hrun⟩ := exists_admin_unsaved hsaved hchange hforced hperform htrail .isFolder
  have hleaves := (keepsFiles hapart).admin _ _ _ _ _ _ _ hrun
  obtain ⟨g, hmade, htext, -⟩ := hleaves.recorded ⟨_, _, rfl⟩
  obtain ⟨place, htarget, hfile⟩ := Disk.read_eq_ok.mp hsaved.read
  obtain rfl := Disk.placeOf_of_target htarget
  have hplaces : Disk.placeOf s.policyFile = ["policy.json"] ∧ Disk.placeOf s.auditLog = ["audit.jsonl"] := by decide
  refine ⟨_, d', _, g, hapart, hsaved.read, hrun, hmade, ?_, ?_⟩
  · rw [← hplaces.1, hleaves.policy, Disk.file?, hfile]
    rfl
  · rw [← hplaces.2, htext, Disk.textAt_of_target htrail]
    exact String.empty_append

end Command

end CallGuard
