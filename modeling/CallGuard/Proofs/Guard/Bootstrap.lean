import CallGuard.Proofs.Guard.AuditTrail
import CallGuard.Proofs.Hex
import CallGuard.Proofs.Outcome
import CallGuard.Settings

/-! # Operations in a row

What operations record when they are performed one after the other, as for the policy to begin with. An entry that was
not there before has an event that approved it (`Recorded.approved`), and the guard to begin with records nothing but
approvals (`recorded_bootstrapGuard`). -/

namespace CallGuard

/-- An event without its number. -/
def Event.unnumbered (e : Event) : Event :=
  { e with seq := 0 }

namespace Bootstrap

theorem addresses_eq_ok {list : List String} {found : List Address} :
    addresses list = .ok found ↔ list.map Address.read = found.map .ok := by
  rw [addresses, Outcome.mapM_eq_ok]
  induction list generalizing found with
  | nil => cases found <;> simp
  | cons text rest ih =>
    cases found with
    | nil => simp
    | cons a found => simp only [List.map_cons, List.cons_eq_cons, Outcome.mapError_eq_ok, ih]

theorem exists_addresses {list : List String} (h : ∀ text ∈ list, ∃ a, Address.read text = .ok a) :
    ∃ found, addresses list = .ok found := by
  simp only [addresses_eq_ok]
  induction list with
  | nil => exact ⟨[], rfl⟩
  | cons text rest ih =>
    obtain ⟨a, ha⟩ := h text List.mem_cons_self
    obtain ⟨found, hfound⟩ := ih fun text htext => h text (List.mem_cons_of_mem _ htext)
    exact ⟨a :: found, by rw [List.map_cons, List.map_cons, ha, hfound]⟩

theorem addresses_toHex (list : List Address) : addresses (list.map (·.toHex)) = .ok list := by
  rw [addresses_eq_ok, List.map_map]
  exact List.map_congr_left fun a _ => Octets.read_toHex a

theorem length_of_addresses {list : List String} {found : List Address} (h : addresses list = .ok found) :
    found.length = list.length := by
  have hlength := congrArg List.length (addresses_eq_ok.mp h)
  rw [List.length_map, List.length_map] at hlength
  exact hlength.symm

theorem length_steps (make : Address → Operation) (count : Nat) (h : ∀ a, (make a).steps.length = count)
    (list : List Address) : ((list.map make).flatMap (·.steps)).length = count * list.length := by
  induction list with
  | nil => rfl
  | cons a rest ih =>
    rw [List.map_cons, List.flatMap_cons, List.length_append, ih, h, List.length_cons, Nat.mul_succ, Nat.add_comm]

/-- The operations change as many entries as the lists ask for. -/
theorem length_steps_of_operations {b : Bootstrap} {ops : List Operation} (h : b.operations = .ok ops) :
    (ops.flatMap (·.steps)).length = b.size := by
  simp only [operations, Outcome.bind_eq_ok] at h
  obtain ⟨senders, hsenders, withdraw, hwithdraw, assets, hassets, tokens, htokens, routers, hrouters, h⟩ := h
  cases h
  rw [size, ← length_of_addresses hsenders, ← length_of_addresses hwithdraw, ← length_of_addresses hassets,
    ← length_of_addresses htokens, ← length_of_addresses hrouters]
  simp only [List.flatMap_append, List.length_append, length_steps .allowSender 1 fun _ => rfl,
    length_steps .allowWithdrawDestination 1 fun _ => rfl, length_steps .allowAsset 1 fun _ => rfl,
    length_steps .whitelistToken 2 fun _ => rfl, length_steps .whitelistRouter 2 fun _ => rfl, Nat.one_mul]

end Bootstrap

namespace Guard
variable {g g' : Guard} {new : List Event}

theorem Recorded.approved (h : Recorded g g' [] new) {key : Key} (hkey : key ∈ g'.policy) :
    (∃ e ∈ new, e.key = key ∧ e.change = .approved) ∨ key ∈ g.policy := by
  rw [h.policy] at hkey
  exact Policy.approved_or_mem hkey

/-- Where nothing was on the trail, what is recorded is what is on it, numbered from zero. -/
theorem Recorded.of_empty (h : Recorded g g' [] new) (hempty : g.trail = .empty) :
    g'.events = new ∧ g'.events.map (·.seq) = List.range g'.events.length := by
  have hevents : g'.events = new := by
    have hboth : g'.events = g.trail.events ++ new := h.events
    rw [hempty] at hboth
    exact hboth
  refine ⟨hevents, ?_⟩
  rw [hevents, h.seqs, hempty, List.range_eq_range']
  rfl

theorem Recorded.perform (caller : Address) (op : Operation) (note : String) (clock : Clock) (g : Guard) :
    ∃ new, Recorded g ((perform caller op note clock).run g).2 [] new := by
  obtain ⟨new, hrec, -⟩ := serve_recorded g (.change caller op note clock)
  exact ⟨new, hrec⟩

/-- Governance makes the changes of all operations, one operation after the other. -/
theorem performAll_run {caller : Address} {g : Guard} (h : caller = g.owner) (note : String) (clock : Clock)
    (ops : List Operation) :
    (performAll caller note ops clock).run g = (.ok (), g.enterAll note clock (ops.flatMap (·.steps))) := by
  induction ops generalizing g clock with
  | nil => rfl
  | cons op ops ih =>
    rw [performAll, bind_run, perform_run, if_pos h, List.flatMap_cons, enterAll_append]
    exact ih (by rw [owner_enterAll, h]) _

theorem performAll_new (governance : Address) (note : String) (clock : Clock) (ops : List Operation) :
    (performAll governance note ops clock).run (Guard.new governance) =
      (.ok (), (Guard.new governance).enterAll note clock (ops.flatMap (·.steps))) :=
  have howner : governance = (Guard.new governance).owner := rfl
  performAll_run howner note clock ops

/-- Only so many readings of the clock are used as entries are changed. -/
theorem perform_upTo (caller : Address) (op : Operation) (note : String) (clock : Clock) :
    perform caller op note (clock.upTo op.steps.length) = perform caller op note clock := by
  cases op <;> rfl

theorem approved_of_operations {b : Bootstrap} {ops : List Operation} (h : b.operations = .ok ops) :
    ∀ op ∈ ops, ∀ step ∈ op.steps, step.1 = .approved := by
  simp only [Bootstrap.operations, Outcome.bind_eq_ok] at h
  obtain ⟨senders, -, withdraw, -, assets, -, tokens, -, routers, -, h⟩ := h
  cases h
  simp [or_imp, forall_and, Operation.steps]

/-- The guard to begin with is that of the governance identity after all operations. -/
theorem bootstrapGuard_eq_ok {s : Settings} {clock : Clock} :
    s.bootstrapGuard clock = .ok g ↔
      ∃ governance ops, s.readGovernance = .ok governance ∧ s.bootstrap.operations = .ok ops ∧
        g = (Guard.new governance).enterAll Settings.bootstrapNote clock (ops.flatMap (·.steps)) := by
  have hperform (governance : Address) (ops : List Operation) :=
    congrArg Prod.snd (performAll_new governance Settings.bootstrapNote clock ops)
  constructor
  · intro h
    obtain ⟨governance, hgovernance, hrest⟩ := Outcome.bind_eq_ok.mp h
    obtain ⟨ops, hops, hguard⟩ := Outcome.bind_eq_ok.mp hrest
    exact ⟨governance, ops, hgovernance, hops, (Except.ok.inj hguard).symm.trans (hperform governance ops)⟩
  · rintro ⟨governance, ops, hgovernance, hops, rfl⟩
    refine Outcome.bind_eq_ok.mpr ⟨governance, hgovernance, Outcome.bind_eq_ok.mpr ⟨ops, hops, ?_⟩⟩
    exact congrArg Except.ok (hperform governance ops)

/-- Only so many readings of the clock are used as entries are allowed to begin with. -/
theorem bootstrapGuard_upTo (s : Settings) (clock : Clock) :
    s.bootstrapGuard (clock.upTo s.bootstrap.size) = s.bootstrapGuard clock := by
  rw [Settings.bootstrapGuard, Settings.bootstrapGuard]
  refine congrArg (s.readGovernance >>= ·) (funext fun governance => ?_)
  cases hops : s.bootstrap.operations with
  | error fault => rfl
  | ok ops =>
    have hused : ∀ i < (ops.flatMap (·.steps)).length, clock.upTo s.bootstrap.size i = clock i := fun i hi =>
      Clock.upTo_apply (Bootstrap.length_steps_of_operations hops ▸ hi)
    refine congrArg (fun outcome : Except Violation Unit × Guard => Except.ok outcome.2) ?_
    rw [performAll_new, performAll_new, enterAll_congr hused]

/-- The guard to begin with records every entry that it has, and nothing but approvals. -/
theorem recorded_bootstrapGuard {s : Settings} {clock : Clock} (h : s.bootstrapGuard clock = .ok g) :
    ∃ governance, Recorded (.new governance) g [] g.events ∧ ∀ e ∈ g.events, e.change = .approved := by
  obtain ⟨governance, ops, -, hops, rfl⟩ := bootstrapGuard_eq_ok.mp h
  obtain ⟨new, hrec, hbodies⟩ :=
    Recorded.enterAll Settings.bootstrapNote clock (.new governance) (ops.flatMap (·.steps))
  obtain ⟨hevents, -⟩ := hrec.of_empty rfl
  refine ⟨governance, hevents.symm ▸ hrec, fun e he => ?_⟩
  have hbody : e.body ∈ (ops.flatMap (·.steps)).map (Event.Body.ofStep Settings.bootstrapNote) := by
    rw [← hbodies, ← hevents]
    exact List.mem_map_of_mem he
  obtain ⟨step, hstep, hsame⟩ := List.mem_map.mp hbody
  obtain ⟨op, hop, hmem⟩ := List.mem_flatMap.mp hstep
  rw [← approved_of_operations hops op hop step hmem]
  exact congrArg Event.Body.change hsame.symm

/-- The guard to begin with records every entry that it has. -/
theorem bootstrapGuard_recorded {s : Settings} {clock : Clock} (h : s.bootstrapGuard clock = .ok g) :
    ∃ governance, Recorded (.new governance) g [] g.events := by
  obtain ⟨governance, hrec, -⟩ := recorded_bootstrapGuard h
  exact ⟨governance, hrec⟩

/-- The guard to begin with of settings that list nothing but wallets. -/
theorem bootstrapGuard_of_senders (owner : Address) (wallets : List Address) (clock : Clock) :
    Settings.bootstrapGuard { governance := owner.toHex, bootstrap := { senders := wallets.map (·.toHex) } } clock =
      .ok ((Guard.new owner).enterAll Settings.bootstrapNote clock
        (wallets.map fun wallet => (Change.approved, Key.sender wallet))) := by
  have hgovernance : Address.read owner.toHex = .ok owner := Octets.read_toHex owner
  refine bootstrapGuard_eq_ok.mpr ⟨owner, wallets.map .allowSender, ?_, ?_, ?_⟩
  · exact Outcome.mapError_eq_ok.mpr hgovernance
  · rw [Bootstrap.operations, Bootstrap.addresses_toHex]
    exact congrArg Except.ok (by simp)
  · rw [List.flatMap_map, List.map_eq_flatMap]
    rfl

/-- There is a guard to begin with where every address in the settings is one. -/
theorem exists_bootstrapGuard {s : Settings} (hgovernance : ∃ a, Address.read s.governance = .ok a)
    (hlists : ∀ entry ∈ s.bootstrap.lists, ∀ text ∈ entry.2, ∃ a, Address.read text = .ok a) (clock : Clock) :
    ∃ g, s.bootstrapGuard clock = .ok g := by
  obtain ⟨governance, hgovernance⟩ := hgovernance
  have hread : s.readGovernance = .ok governance := Outcome.mapError_eq_ok.mpr hgovernance
  simp only [Bootstrap.lists, List.forall_mem_cons] at hlists
  obtain ⟨hsenders, hwithdraw, hassets, htokens, hrouters, -⟩ := hlists
  obtain ⟨senders, hsenders⟩ := Bootstrap.exists_addresses hsenders
  obtain ⟨withdraw, hwithdraw⟩ := Bootstrap.exists_addresses hwithdraw
  obtain ⟨assets, hassets⟩ := Bootstrap.exists_addresses hassets
  obtain ⟨tokens, htokens⟩ := Bootstrap.exists_addresses htokens
  obtain ⟨routers, hrouters⟩ := Bootstrap.exists_addresses hrouters
  rw [Settings.bootstrapGuard, hread, Bootstrap.operations, hsenders, hwithdraw, hassets, htokens, hrouters]
  exact ⟨_, rfl⟩

/-! ## Guards of one policy -/

/-- What is recorded depends on the guard by its numbers alone. -/
theorem events_enterAll (note : String) (clock : Clock) (g h : Guard) (steps : List (Change × Key)) :
    ∃ new new', (g.enterAll note clock steps).events = g.events ++ new ∧
      (h.enterAll note clock steps).events = h.events ++ new' ∧
        new'.map Event.unnumbered = new.map Event.unnumbered := by
  induction steps generalizing g h clock with
  | nil => exact ⟨[], [], (List.append_nil _).symm, (List.append_nil _).symm, rfl⟩
  | cons step rest ih =>
    obtain ⟨new, new', hevents, hevents', hsame⟩ :=
      ih (clock.after 1) (g.enter note (clock 0) step) (h.enter note (clock 0) step)
    refine ⟨g.trail.event step.1 step.2 note (clock 0) :: new, h.trail.event step.1 step.2 note (clock 0) :: new',
      ?_, ?_, ?_⟩
    · rw [enterAll, hevents, List.append_cons]
      rfl
    · rw [enterAll, hevents', List.append_cons]
      rfl
    · rw [List.map_cons, hsame]
      rfl

end Guard

end CallGuard
