import CallGuard.Proofs.Guard.Run

/-! # The audit trail of a run

What is taken off the trail in the course of a run, followed by what is left on it, is the log of the run. The events
of a log are numbered from zero without a gap, there is one for every change that was made and no other, and the last
one about a key decides whether the key is an entry in the end (`Audited`). The invariant is `Recorded`: it speaks of a
stretch of a run, so that it composes (`Recorded.trans`). -/

namespace CallGuard

/-- What an event says, but for its number and its time. -/
structure Event.Body where
  name : String
  change : Change
  key : Key
  note : String
  deriving DecidableEq

def Event.body (e : Event) : Event.Body := ⟨e.name, e.change, e.key, e.note⟩

/-- What is said of a change of one entry; the event has the name of the list with that of the change behind it. -/
def Event.Body.ofStep (note : String) (step : Change × Key) : Event.Body :=
  ⟨step.2.kind.name ++ step.1.name, step.1, step.2, note⟩

namespace Guard

/-- The events that an answer hands over, to be kept no longer. -/
def Answer.batch : Answer → List Event
  | .taken events => events
  | _ => []

/-- What an answered request leaves to be said: the steps of an operation that was made, in order. -/
def bodiesOf : Request × Answer → List Event.Body
  | (.change _ op note _, .changed (.ok ())) => op.steps.map (.ofStep note)
  | _ => []

/-- Everything recorded in a run: what is taken in the course of it, then what is left on the trail. -/
def log (g : Guard) (requests : List Request) : List Event :=
  ((g.run requests).1.flatMap fun answered => answered.2.batch) ++ (g.run requests).2.events

/-- From the guard `g` to the guard `g'`, `new` was recorded and `taken` was taken off the trail: events are taken in
    the order in which they are recorded and none is lost, the numbers go on where the trail was, and the policy changes
    as the new events say and not otherwise. -/
structure Recorded (g g' : Guard) (taken new : List Event) : Prop where
  events : taken ++ g'.events = g.events ++ new
  seqs : new.map (·.seq) = List.range' g.trail.nextSeq new.length
  nextSeq : g'.trail.nextSeq = g.trail.nextSeq + new.length
  policy : g'.policy = g.policy.replay new

namespace Recorded
variable {g g' g'' : Guard} {taken taken' new new' : List Event}

theorem refl (g : Guard) : Recorded g g [] [] where
  events := (List.append_nil _).symm
  seqs := rfl
  nextSeq := rfl
  policy := rfl

theorem trans (h : Recorded g g' taken new) (h' : Recorded g' g'' taken' new') :
    Recorded g g'' (taken ++ taken') (new ++ new') where
  events := by rw [List.append_assoc, h'.events, ← List.append_assoc, h.events, List.append_assoc]
  seqs := by
    rw [List.map_append, h.seqs, h'.seqs, h.nextSeq, List.length_append, ← List.range'_append_1]
  nextSeq := by rw [h'.nextSeq, h.nextSeq, List.length_append, Nat.add_assoc]
  policy := by rw [h'.policy, h.policy, Policy.replay_append]

theorem enter (note : String) (time : Timestamp) (g : Guard) (step : Change × Key) :
    Recorded g (g.enter note time step) [] [g.trail.event step.1 step.2 note time] where
  events := rfl
  seqs := rfl
  nextSeq := rfl
  policy := rfl

theorem take (g : Guard) : Recorded g (takeEvents.run g).2 g.events [] where
  events := rfl
  seqs := rfl
  nextSeq := rfl
  policy := rfl

theorem enterAll (note : String) (clock : Clock) (g : Guard) (steps : List (Change × Key)) :
    ∃ new, Recorded g (g.enterAll note clock steps) [] new ∧ new.map Event.body = steps.map (.ofStep note) := by
  induction steps generalizing g clock with
  | nil => exact ⟨[], refl g, rfl⟩
  | cons step rest ih =>
    obtain ⟨new, hrec, hbodies⟩ := ih (clock.after 1) (g.enter note (clock 0) step)
    refine ⟨g.trail.event step.1 step.2 note (clock 0) :: new, (enter note (clock 0) g step).trans hrec, ?_⟩
    rw [List.map_cons, List.map_cons, hbodies]
    rfl

end Recorded

section
variable {g : Guard} {requests : List Request}

/-- What answering one request records is what the answer leaves to be said. -/
theorem serve_recorded (g : Guard) (request : Request) :
    ∃ new, Recorded g (g.serve request).2 (g.serve request).1.batch new ∧
      new.map Event.body = bodiesOf (request, (g.serve request).1) := by
  cases request with
  | change caller op note clock =>
    rw [serve_change]
    by_cases h : caller = g.owner
    · rw [if_pos h]
      exact Recorded.enterAll note clock g op.steps
    · rw [if_neg h]
      exact ⟨[], Recorded.refl g, rfl⟩
  | authorize sender target data => exact ⟨[], Recorded.refl g, rfl⟩
  | contains key => exact ⟨[], Recorded.refl g, rfl⟩
  | events => exact ⟨[], Recorded.refl g, rfl⟩
  | takeEvents => exact ⟨[], Recorded.take g, rfl⟩

theorem run_recorded (g : Guard) (requests : List Request) :
    ∃ new, Recorded g (g.run requests).2 ((g.run requests).1.flatMap fun answered => answered.2.batch) new ∧
      new.map Event.body = (g.run requests).1.flatMap bodiesOf := by
  induction requests generalizing g with
  | nil => exact ⟨[], Recorded.refl g, rfl⟩
  | cons request rest ih =>
    obtain ⟨first, hfirst, hbodies⟩ := serve_recorded g request
    obtain ⟨later, hlater, hbodies'⟩ := ih (g.serve request).2
    refine ⟨first ++ later, ?_, ?_⟩
    · rw [run, List.flatMap_cons]
      exact hfirst.trans hlater
    · rw [run, List.flatMap_cons, List.map_append, hbodies, hbodies']

theorem map_fst_run (g : Guard) (requests : List Request) : (g.run requests).1.map Prod.fst = requests := by
  induction requests generalizing g with
  | nil => rfl
  | cons request rest ih => rw [run, List.map_cons, ih]

/-- What the log says of a run in which every request is answered. The events are numbered from zero without a gap, and
    they are those of the operations that were made, step by step, and no others. The last one about a key decides
    whether it is an entry; where there is none, it is one if it was. -/
structure Audited (g : Guard) (requests : List Request) : Prop where
  answered : (g.run requests).1.map Prod.fst = requests
  seqs : (g.log requests).map (·.seq) = List.range (g.log requests).length
  bodies : (g.log requests).map Event.body = (g.run requests).1.flatMap bodiesOf
  policy : ∀ key, key ∈ (g.run requests).2.policy ↔
    (∃ e, Policy.lastAbout? key (g.log requests) = some e ∧ e.change = .approved) ∨
      (∀ e ∈ g.log requests, e.key ≠ key) ∧ key ∈ g.policy
  owner : (g.run requests).2.owner = g.owner

/-- Nothing is on the trail at first, so the log is all that was recorded. -/
theorem Initial.log_recorded (h : Initial g) (requests : List Request) :
    Recorded g (g.run requests).2 ((g.run requests).1.flatMap fun answered => answered.2.batch) (g.log requests) ∧
      (g.log requests).map Event.body = (g.run requests).1.flatMap bodiesOf := by
  obtain ⟨new, hrec, hbodies⟩ := run_recorded g requests
  have hlog : g.log requests = new := by
    rw [log, hrec.events, events, h.trail]
    rfl
  rw [hlog]
  exact ⟨hrec, hbodies⟩

theorem Initial.seqs_log (h : Initial g) (requests : List Request) :
    (g.log requests).map (·.seq) = List.range (g.log requests).length := by
  rw [(h.log_recorded requests).1.seqs, h.trail, List.range_eq_range']
  rfl

/-- The numbers fit 64 bits for as long as no more than `2 ^ 64` events are recorded. -/
theorem Initial.seq_lt (h : Initial g) (hlength : (g.log requests).length ≤ UInt64.size) {e : Event}
    (he : e ∈ g.log requests) : e.seq < UInt64.size := by
  have hseq : e.seq ∈ (g.log requests).map (·.seq) := List.mem_map_of_mem he
  rw [h.seqs_log, List.mem_range] at hseq
  exact Nat.lt_of_lt_of_le hseq hlength

/-- The log of a run of a guard as it is built determines the policy after the run. -/
theorem Initial.audited (h : Initial g) (requests : List Request) : Audited g requests := by
  obtain ⟨hrec, hbodies⟩ := h.log_recorded requests
  refine ⟨map_fst_run g requests, h.seqs_log requests, hbodies, fun key => ?_, ?_⟩
  · rw [hrec.policy, Policy.mem_replay]
  · rw [owner, hrec.policy, Policy.governance_replay, owner]

/-- A run with a caller who may not change the policy, a token, and a removal after the events were taken. -/
theorem audited_token_run :
    let owner : Address := .ofNat 20 1
    let token : Address := .ofNat 20 2
    let requests : List Request := [
      .change token (.allowAsset token) "no" (.still (.ofNanoseconds 0)),
      .change owner (.whitelistToken token) "yes" (fun i => .ofNanoseconds (i + 1)),
      .takeEvents,
      .authorize owner token [],
      .change owner (.remove (.ofCallSite token Function.approve.selector)) "no more" (.still (.ofNanoseconds 3))]
    Initial (.new owner) ∧ ((Guard.new owner).log requests).map (·.seq) = [0, 1, 2] ∧
      Audited (.new owner) requests := by
  intro owner token requests
  exact ⟨.new owner, rfl, Initial.audited (.new owner) requests⟩

end

end Guard

end CallGuard
