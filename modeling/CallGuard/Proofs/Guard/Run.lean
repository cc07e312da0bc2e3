import CallGuard.Proofs.Policy.Replay
import CallGuard.Snapshot

/-! # Runs of a guard

A run is a list of requests that a guard answers one after the other. A change is made step by step, one step for each
entry that it touches, and each step is recorded; what is not a change by governance leaves the guard as it was, but
for taking the events off the trail (`perform_run`, `serve_change`). -/

namespace CallGuard

namespace Guard

/-- What is asked of a guard: a change, a decision on a payload, whether a key is an entry, or the events not yet taken,
    to be seen or to be taken. -/
inductive Request where
  | change (caller : Address) (op : Operation) (note : String) (clock : Clock)
  | authorize (sender target : Address) (data : Bytes)
  | contains (key : Key)
  | events
  | takeEvents

/-- What a guard answers. -/
inductive Answer where
  | changed (outcome : Except Violation Unit)
  | decided (outcome : Except Violation Permission)
  | contained (present : Bool)
  | listed (events : List Event)
  | taken (events : List Event)

/-- The guard after a change of one entry, which is recorded. -/
def enter (note : String) (time : Timestamp) (g : Guard) (step : Change × Key) : Guard :=
  ⟨g.policy.apply step.1 step.2, g.trail.record step.1 step.2 note time⟩

/-- The guard after changes of entries one by one, each recorded at a reading of the clock of its own. -/
def enterAll (note : String) : Clock → Guard → List (Change × Key) → Guard
  | _, g, [] => g
  | clock, g, step :: rest => enterAll note (clock.after 1) (g.enter note (clock 0) step) rest

/-- The answer of a guard to a request, and the guard after it. -/
def serve (g : Guard) : Request → Answer × Guard
  | .change caller op note clock =>
    let (outcome, g') := (perform caller op note clock).run g
    (.changed outcome, g')
  | .authorize sender target data => (.decided (g.authorize sender target data), g)
  | .contains key => (.contained (g.policy.contains key), g)
  | .events => (.listed g.events, g)
  | .takeEvents =>
    let (events, g') := takeEvents.run g
    (.taken events, g')

/-- The requests of a run with their answers, and the guard after it. -/
def run (g : Guard) : List Request → List (Request × Answer) × Guard
  | [] => ([], g)
  | request :: rest =>
    let (answer, g') := g.serve request
    let (answers, g'') := g'.run rest
    ((request, answer) :: answers, g'')

/-- A guard as it is built: for a governance identity alone, or from a snapshot. -/
inductive Initial : Guard → Prop
  | new (governance : Address) : Initial (.new governance)
  | restored {s : Snapshot} {g : Guard} (h : ofSnapshot s = .ok g) : Initial g

theorem Initial.trail {g : Guard} (h : Initial g) : g.trail = .empty := by
  cases h with
  | new governance => rfl
  | @restored s g h =>
    rw [ofSnapshot] at h
    split at h
    · cases h
      rfl
    · cases h

/-! ## Changes -/

section
variable {caller : Address} {g : Guard}

theorem owner_enter (note : String) (time : Timestamp) (g : Guard) (step : Change × Key) :
    (g.enter note time step).owner = g.owner :=
  Policy.governance_apply _ _ _

theorem owner_enterAll (note : String) (clock : Clock) (g : Guard) (steps : List (Change × Key)) :
    (g.enterAll note clock steps).owner = g.owner := by
  induction steps generalizing g clock with
  | nil => rfl
  | cons step rest ih => rw [enterAll, ih, owner_enter]

theorem enterAll_append (note : String) (clock : Clock) (g : Guard) (first rest : List (Change × Key)) :
    g.enterAll note clock (first ++ rest) =
      (g.enterAll note clock first).enterAll note (clock.after first.length) rest := by
  induction first generalizing g clock with
  | nil => rfl
  | cons step first ih =>
    rw [List.cons_append, enterAll, ih, Clock.after_after, Nat.add_comm]
    rfl

/-- What the clock shows when everything is recorded does not matter. -/
theorem enterAll_congr {note : String} {clock clock' : Clock} {steps : List (Change × Key)}
    (h : ∀ i < steps.length, clock i = clock' i) (g : Guard) :
    g.enterAll note clock steps = g.enterAll note clock' steps := by
  induction steps generalizing g clock clock' with
  | nil => rfl
  | cons step rest ih =>
    rw [enterAll, enterAll, h 0 (Nat.succ_pos _)]
    exact ih (fun i hi => h (i + 1) (Nat.succ_lt_succ hi)) _

theorem bind_run {α β : Type} (x : Guarded α) (f : α → Guarded β) (g : Guard) :
    (x >>= f).run g =
      match x.run g with
      | (.ok a, g') => (f a).run g'
      | (.error v, g') => (.error v, g') := by
  show (match x.run g with | (a, g') => (ExceptT.bindCont f a : StateM Guard _) g') = _
  rcases x.run g with ⟨_ | _, g'⟩ <;> rfl

theorem ensureGovernance_run (caller : Address) (g : Guard) :
    (ensureGovernance caller).run g = (if caller = g.owner then .ok () else .error (.unauthorized caller), g) := by
  show ((if !g.policy.isGovernance caller then throw (.unauthorized caller) else pure ()) : Guarded Unit).run g = _
  by_cases h : caller = g.owner
  · rw [Policy.isGovernance_iff.mpr h, if_pos h]
    rfl
  · rw [Bool.eq_false_iff.mpr fun hgovernance => h (Policy.isGovernance_iff.mp hgovernance), if_neg h]
    rfl

theorem change_run_of_owner (h : caller = g.owner) (what : Change) (key : Key) (note : String) (time : Timestamp) :
    (change caller what key note time).run g = (.ok (), g.enter note time (what, key)) := by
  rw [change, bind_run, ensureGovernance_run, if_pos h]
  rfl

theorem change_run_of_ne (h : caller ≠ g.owner) (what : Change) (key : Key) (note : String) (time : Timestamp) :
    (change caller what key note time).run g = (.error (.unauthorized caller), g) := by
  rw [change, bind_run, ensureGovernance_run, if_neg h]

/-- An operation of governance makes its changes one by one, and one of any other caller none. -/
theorem perform_run (caller : Address) (op : Operation) (note : String) (clock : Clock) (g : Guard) :
    (perform caller op note clock).run g =
      if caller = g.owner then (.ok (), g.enterAll note clock op.steps) else (.error (.unauthorized caller), g) := by
  by_cases h : caller = g.owner
  · rw [if_pos h]
    have hnext : ∀ step, caller = (g.enter note (clock 0) step).owner := fun step => by rw [owner_enter, h]
    cases op with
    | whitelistToken token =>
      rw [perform, whitelistToken, bind_run, allowCallSite, allow, change_run_of_owner h]
      exact change_run_of_owner (hnext _) .approved _ note (clock 1)
    | whitelistRouter router =>
      rw [perform, whitelistRouter, bind_run, allowCallSite, allow, change_run_of_owner h]
      exact change_run_of_owner (hnext _) .approved _ note (clock 1)
    -- Every other operation is the change of one entry.
    | _ => exact change_run_of_owner h _ _ note (clock 0)
  · rw [if_neg h]
    cases op with
    | whitelistToken token =>
      rw [perform, whitelistToken, bind_run, allowCallSite, allow, change_run_of_ne h]
    | whitelistRouter router =>
      rw [perform, whitelistRouter, bind_run, allowCallSite, allow, change_run_of_ne h]
    | _ => exact change_run_of_ne h _ _ note (clock 0)

theorem serve_change (caller : Address) (op : Operation) (note : String) (clock : Clock) (g : Guard) :
    g.serve (.change caller op note clock) =
      if caller = g.owner then (.changed (.ok ()), g.enterAll note clock op.steps)
      else (.changed (.error (.unauthorized caller)), g) := by
  rw [serve, perform_run]
  by_cases h : caller = g.owner
  · rw [if_pos h, if_pos h]
  · rw [if_neg h, if_neg h]

end

end Guard

end CallGuard
