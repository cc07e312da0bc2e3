import CallGuard.Proofs.Command.Change

/-! # Commands record before they permit

What a command asks for is safe while some keys are on record: it writes no policy with other entries, and nothing but
lines of events to the trail. The keys on record only become more while others go on, so it is said of every answer
what is on record then (`Safe`). `init` and `admin` are safe from the start (`safe_init`, `safe_admin`), because the
events go to the trail before the policy is written. -/

namespace CallGuard

/-- The files that commands share. -/
structure Files where
  policy : String
  trail : String

/-- Settings of which the files are these. -/
def Settings.Uses (s : Settings) (files : Files) : Prop :=
  s.policyFile = files.policy ∧ s.auditLog = files.trail

/-- A text is the snapshot of a policy without entries other than these keys. -/
def Permits (text : String) (keys : Key → Prop) : Prop :=
  ∃ p : Policy, text = (Snapshot.ofPolicy p).text ∧ ∀ key ∈ p, keys key

/-- Every key of the first ones is one of the second. -/
def Within (keys later : Key → Prop) : Prop :=
  ∀ key, keys key → later key

theorem Within.refl (keys : Key → Prop) : Within keys keys :=
  fun _ h => h

theorem Within.trans {first second third : Key → Prop} (h : Within first second) (h' : Within second third) :
    Within first third :=
  fun key hkey => h' key (h key hkey)

theorem Permits.mono {text : String} {keys later : Key → Prop} (h : Permits text keys) (hwithin : Within keys later) :
    Permits text later := by
  obtain ⟨p, htext, hkeys⟩ := h
  exact ⟨p, htext, fun key hkey => hwithin key (hkeys key hkey)⟩

/-- What may be asked for while these keys are on record. -/
def Files.Allows (files : Files) (keys : Key → Prop) : Request → Prop
  | .write path text => path = files.policy ∧ Permits text keys
  | .append path text => path = files.trail ∧ ∃ events, text = Event.linesOf events
  | _ => True

/-- What an answer tells of the keys that are on record when it is given. -/
def Files.Tells (files : Files) (later : Key → Prop) : (r : Request) → r.Answer → Prop
  | .read path, .ok text => path = files.policy → Permits text later
  | .append _ text, .ok () =>
    ∀ events, text = Event.linesOf events → ∀ e ∈ events, e.change = .approved → later e.key
  | _, _ => True

namespace Script
variable {α β : Type} {files : Files} {keys later : Key → Prop} {post post' : α → (Key → Prop) → Prop}

/-- A script asks for nothing that is not allowed, and ends with what is claimed of its result. -/
def Safe (files : Files) (post : α → (Key → Prop) → Prop) : Script α → (Key → Prop) → Prop
  | .done result, keys => post result keys
  | .ask request next, keys =>
    files.Allows keys request ∧
      ∀ answer later, Within keys later → files.Tells later request answer → Safe files post (next answer) later

theorem Safe.imp {script : Script α} (h : Safe files post script keys)
    (himp : ∀ a later, post a later → post' a later) : Safe files post' script keys := by
  induction script generalizing keys with
  | done result => exact himp result keys h
  | ask request next ih => exact ⟨h.1, fun answer later hwithin htells => ih answer (h.2 answer later hwithin htells)⟩

theorem Safe.bind {post : β → (Key → Prop) → Prop} {script : Script α} {f : α → Script β}
    (h : Safe files (fun a later => Safe files post (f a) later) script keys) :
    Safe files post (script.bind f) keys := by
  induction script generalizing keys with
  | done result => exact h
  | ask request next ih => exact ⟨h.1, fun answer later hwithin htells => ih answer (h.2 answer later hwithin htells)⟩

theorem allows_mono (hwithin : Within keys later) {request : Request} (h : files.Allows keys request) :
    files.Allows later request := by
  cases request with
  | write path text => exact ⟨h.1, h.2.mono hwithin⟩
  | append path text => exact h
  | _ => trivial

/-- What others put on record leaves a script safe. -/
theorem Safe.mono {script : Script α} (h : Safe files (fun _ _ => True) script keys) (hwithin : Within keys later) :
    Safe files (fun _ _ => True) script later := by
  cases script with
  | done result => trivial
  | ask request next =>
    exact ⟨allows_mono hwithin h.1, fun answer last hlast htells => h.2 answer last (hwithin.trans hlast) htells⟩

end Script

namespace Command
variable {α β ε : Type} {files : Files} {keys later : Key → Prop}

/-- A command is safe, and ends with what is claimed of its result unless it fails. -/
def Safe (files : Files) (post : α → (Key → Prop) → Prop) (command : Command α) (keys : Key → Prop) : Prop :=
  Script.Safe files (fun result later => ∀ a, result = .ok a → post a later) (ExceptT.run command) keys

section
variable {post : α → (Key → Prop) → Prop}

theorem safe_pure {a : α} (h : post a keys) : Safe files post (pure a) keys := by
  intro b hb
  cases hb
  exact h

theorem safe_throw (f : Failure) : Safe files post (throw f) keys :=
  nofun

theorem safe_bind {first : β → (Key → Prop) → Prop} {command : Command β} {next : β → Command α}
    (h : Safe files first command keys) (hnext : ∀ b later, first b later → Safe files post (next b) later) :
    Safe files post (command >>= next) keys := by
  refine Script.Safe.bind (Script.Safe.imp h fun result later hresult => ?_)
  cases result with
  | ok b => exact hnext b later (hresult b rfl)
  | error f => exact nofun

theorem safe_ask {r : Request} {next : r.Answer → Command α} (hallows : files.Allows keys r)
    (hnext : ∀ answer later, Within keys later → files.Tells later r answer → Safe files post (next answer) later) :
    Safe files post (ask r >>= next) keys :=
  ⟨hallows, hnext⟩

theorem safe_ofExcept {failure : ε → Failure} {result : Except ε β} {next : β → Command α}
    (hnext : ∀ b, result = .ok b → Safe files post (next b) keys) :
    Safe files post (ofExcept failure result >>= next) keys := by
  cases result with
  | ok b => exact hnext b rfl
  | error e => exact safe_throw (failure e)

theorem safe_result {failure : ε → Failure} {result : Except ε α} (hpost : ∀ a, result = .ok a → post a keys) :
    Safe files post (ofExcept failure result) keys := by
  cases result with
  | ok a => exact safe_pure (hpost a rfl)
  | error e => exact safe_throw (failure e)

end

section
variable {g : Guard} {events : List Event} {path : String}

/-- A guard that is loaded has no entries but those on record. -/
theorem safe_load (hpath : path = files.policy) :
    Safe files (fun g later => Within keys later ∧ g.trail = .empty ∧ ∀ key ∈ g.policy, later key) (load path)
      keys := by
  refine safe_ask trivial fun _ known hknown _ => safe_ofExcept fun present _ => ?_
  cases present with
  | false => exact safe_throw _
  | true =>
    refine safe_ask trivial fun answer later hlater htells => safe_ofExcept fun text hanswer => ?_
    cases hanswer
    obtain ⟨p, rfl, hkeys⟩ := htells hpath
    have hrestore : Guard.restore (Snapshot.ofPolicy p).text = .ok (.ofPolicy p) := Guard.restore_snapshot (.ofPolicy p)
    rw [hrestore]
    exact safe_pure ⟨hknown.trans hlater, rfl, hkeys⟩

/-- Events that are appended are on record. -/
theorem safe_appendEvents (hpath : path = files.trail) (events : List Event) :
    Safe files (fun _ later => Within keys later ∧ ∀ e ∈ events, e.change = .approved → later e.key)
      (appendEvents path events) keys := by
  cases events with
  | nil => exact safe_pure ⟨Within.refl keys, by simp⟩
  | cons e rest =>
    have happend : files.Allows keys (.append path (Event.linesOf (e :: rest))) := ⟨hpath, e :: rest, rfl⟩
    refine safe_ask happend fun answer later hwithin htells => safe_result fun _ hanswer => ?_
    cases hanswer
    exact ⟨hwithin, htells (e :: rest) rfl⟩

theorem safe_save (hpath : path = files.policy) (hkeys : ∀ key ∈ g.policy, keys key) :
    Safe files (fun _ _ => True) (save path g) keys := by
  refine safe_ask trivial fun _ later hwithin _ => safe_ofExcept fun _ _ => ?_
  have hwrite : files.Allows later (.write path g.snapshot.text) :=
    ⟨hpath, g.policy, rfl, fun key hkey => hwithin key (hkeys key hkey)⟩
  exact safe_ask hwrite fun _ _ _ _ => safe_result fun _ _ => trivial

/-- A guard is saved after its events are on record. -/
theorem safe_persist {s : Settings} (huses : s.Uses files)
    (hkeys : ∀ key ∈ g.policy, (∃ e ∈ g.events, e.key = key ∧ e.change = .approved) ∨ keys key) :
    Safe files (fun _ _ => True) (persist s g) keys := by
  refine safe_bind (safe_appendEvents huses.2 g.events) fun _ later hlater => safe_save huses.1 fun key hkey => ?_
  obtain ⟨hwithin, hrecorded⟩ := hlater
  rcases hkeys key hkey with ⟨e, he, rfl, happroved⟩ | hknown
  · exact hrecorded e he happroved
  · exact hwithin key hknown

theorem safe_printLine (text : String) : Safe files (fun _ later => Within keys later) (printLine text) keys := by
  refine ⟨trivial, fun _ later hwithin _ => ?_⟩
  exact safe_pure hwithin

theorem safe_forM_printLine {α : Type} (text : α → String) (xs : List α) :
    Safe files (fun _ later => Within keys later) (xs.forM fun x => printLine (text x)) keys := by
  induction xs generalizing keys with
  | nil => exact safe_pure (Within.refl keys)
  | cons x xs ih =>
    refine safe_bind (safe_printLine (text x)) fun _ known hknown => ?_
    exact Script.Safe.imp ih fun _ later hlater _ h => hknown.trans (hlater _ h)

theorem safe_readClock (events : Nat) :
    Safe files (fun _ later => Within keys later) (readClock events) keys := by
  induction events generalizing keys with
  | zero => exact safe_pure (Within.refl keys)
  | succ events ih =>
    refine safe_ask trivial fun _ known hknown _ => safe_bind ih fun _ later hlater => ?_
    exact safe_pure (hknown.trans hlater)

theorem safe_confirm (prompt : String) : Safe files (fun _ later => Within keys later) (confirm prompt) keys := by
  refine safe_ask trivial fun answer later hwithin _ => ?_
  cases answer with
  | some yes => exact safe_pure hwithin
  | none => exact safe_throw _

theorem safe_confirmRemoval (op : Operation) (force : Bool) :
    Safe files (fun _ later => Within keys later) (confirmRemoval op force) keys := by
  cases op with
  | remove key =>
    cases force with
    | true => exact safe_pure (Within.refl keys)
    | false => exact safe_confirm _
  | _ => exact safe_pure (Within.refl keys)

theorem safe_makePolicy {s : Settings} (huses : s.Uses files) :
    Safe files (fun _ _ => True) (makePolicy s) keys := by
  refine safe_bind (safe_readClock s.bootstrap.size) fun clock known _ => safe_ofExcept fun g hguard => ?_
  obtain ⟨governance, hrec⟩ := Guard.bootstrapGuard_recorded hguard
  have hkeys : ∀ key ∈ g.policy, (∃ e ∈ g.events, e.key = key ∧ e.change = .approved) ∨ known key := by
    intro key hkey
    rcases hrec.approved hkey with hrecorded | hnew
    · exact .inl hrecorded
    · exact absurd hnew (Policy.not_mem_empty key governance)
  refine safe_bind (safe_persist huses hkeys) fun _ _ _ => ?_
  refine safe_bind (safe_printLine _) fun _ _ _ => safe_bind (safe_printLine _) fun _ _ _ => ?_
  exact ⟨trivial, fun _ _ _ _ => safe_pure trivial⟩

/-- A command that makes the policy file is safe, whatever the policy to begin with is. -/
theorem safe_init {s : Settings} (huses : s.Uses files) (force : Bool) :
    Safe files (fun _ _ => True) (init s force) keys := by
  rw [init_eq]
  refine safe_ask trivial fun _ known _ _ => safe_ofExcept fun present _ => ?_
  by_cases hasked : (present && !force) = true
  · simp only [if_pos hasked]
    refine safe_bind (safe_confirm _) fun confirmed later _ => ?_
    cases confirmed with
    | false => exact safe_pure trivial
    | true => exact safe_makePolicy huses
  · simp only [if_neg hasked]
    exact safe_makePolicy huses

/-- A change of a guard without entries but those on record is safe to be made and kept. -/
theorem safe_makeChange {s : Settings} (huses : s.Uses files) (caller : Address) (op : Operation) (note : String)
    (hempty : g.trail = .empty) (hkeys : ∀ key ∈ g.policy, keys key) :
    Safe files (fun _ _ => True) (makeChange s caller op note g) keys := by
  refine safe_bind (safe_readClock op.steps.length) fun clock known hknown => ?_
  obtain ⟨new, hrec⟩ := Guard.Recorded.perform caller op note clock g
  generalize (Guard.perform caller op note clock).run g = outcome at hrec ⊢
  obtain ⟨result, g'⟩ := outcome
  refine safe_ofExcept fun _ _ => safe_bind (safe_forM_printLine eventLine g'.events) fun _ later hlater => ?_
  refine safe_persist huses fun key hkey => ?_
  -- An entry is approved by an event of this change, or was on record before it and still is.
  rcases hrec.approved hkey with hrecorded | hold
  · rw [(hrec.of_empty hempty).1]
    exact .inl hrecorded
  · exact .inr (hlater key (hknown key (hkeys key hold)))

/-- A command that changes the policy is safe, whoever the caller is. -/
theorem safe_admin {s : Settings} (huses : s.Uses files) (caller : String) (change : ChangeText) (note : String)
    (force : Bool) : Safe files (fun _ _ => True) (admin s caller change note force) keys := by
  rw [admin_eq]
  refine safe_ofExcept fun caller' _ => ?_
  refine safe_bind (safe_load huses.1) fun g known hloaded => safe_ofExcept fun op _ => ?_
  obtain ⟨-, hempty, hkeys⟩ := hloaded
  refine safe_bind (safe_confirmRemoval op force) fun confirmed later hlater => ?_
  cases confirmed with
  | false => exact safe_pure trivial
  | true => exact safe_makeChange huses caller' op note hempty fun key hkey => hlater key (hkeys key hkey)

end

end Command

end CallGuard
