import CallGuard.Proofs.Guard.Reload

/-! # What callers other than governance can do

A change that is asked for by anyone but governance is refused and leaves the guard as it is, a change of two entries
as one of a single entry. So a run without these requests answers all others alike, down to the numbers of the events
that are taken (`run_permitted`). Times do not matter either: a run of requests without their times is the run itself
without times (`run_untimed`). The main statement is `uninfluenced`. -/

namespace CallGuard

/-- An event without its time. -/
def Event.untimed (e : Event) : Event :=
  { e with time := .epoch }

/-- A trail without the times of its events. -/
def Trail.untimed (t : Trail) : Trail :=
  ⟨t.nextSeq, t.events.map Event.untimed⟩

namespace Guard

/-- A guard without the times of its events. -/
def untimed (g : Guard) : Guard :=
  ⟨g.policy, g.trail.untimed⟩

/-- An answer without the times of the events in it. -/
def Answer.untimed : Answer → Answer
  | .listed events => .listed (events.map Event.untimed)
  | .taken events => .taken (events.map Event.untimed)
  | answer => answer

/-- Answered requests without times. -/
def timeless (answered : List (Request × Answer)) : List (Request × Answer) :=
  answered.map (Prod.map Request.untimed Answer.untimed)

/-- A request that its caller may make where a given identity governs: every request but a change by someone else. -/
def Request.Permitted (owner : Address) : Request → Prop
  | .change caller _ _ _ => caller = owner
  | .authorize _ _ _ | .contains _ | .events | .takeEvents => True

instance (owner : Address) : DecidablePred (Request.Permitted owner)
  | .change caller _ _ _ => inferInstanceAs (Decidable (caller = owner))
  | .authorize _ _ _ | .contains _ | .events | .takeEvents => inferInstanceAs (Decidable True)

/-- What is permitted of a run. -/
abbrev permitted (owner : Address) (requests : List Request) : List Request :=
  requests.filter fun request => request.Permitted owner

section
variable {g : Guard} {request : Request} {requests others : List Request}

theorem run_cons (g : Guard) (request : Request) (rest : List Request) :
    g.run (request :: rest) =
      ((request, (g.serve request).1) :: ((g.serve request).2.run rest).1, ((g.serve request).2.run rest).2) :=
  rfl

/-! ## Requests that are not permitted -/

theorem serve_of_not_permitted (h : ¬ request.Permitted g.owner) :
    ∃ caller, (g.serve request) = (.changed (.error (.unauthorized caller)), g) := by
  cases request with
  | change caller op note clock =>
    have hcaller : caller ≠ g.owner := h
    exact ⟨caller, by rw [serve_change, if_neg hcaller]⟩
  | authorize sender target data => exact absurd trivial h
  | contains key => exact absurd trivial h
  | events => exact absurd trivial h
  | takeEvents => exact absurd trivial h

theorem owner_serve (g : Guard) (request : Request) : (g.serve request).2.owner = g.owner := by
  obtain ⟨new, hrec, -⟩ := serve_recorded g request
  rw [owner, hrec.policy, Policy.governance_replay, owner]

theorem owner_run (g : Guard) (requests : List Request) : (g.run requests).2.owner = g.owner := by
  obtain ⟨new, hrec, -⟩ := run_recorded g requests
  rw [owner, hrec.policy, Policy.governance_replay, owner]

/-- A run without what is not permitted answers everything else alike and ends alike. -/
theorem run_permitted (g : Guard) (requests : List Request) :
    g.run (permitted g.owner requests) =
      ((g.run requests).1.filter fun answered => answered.1.Permitted g.owner, (g.run requests).2) := by
  induction requests generalizing g with
  | nil => rfl
  | cons request rest ih =>
    rw [run_cons]
    by_cases h : request.Permitted g.owner
    · have hrest := ih (g.serve request).2
      rw [owner_serve] at hrest
      simp [run_cons, h, hrest]
    · obtain ⟨caller, hserve⟩ := serve_of_not_permitted h
      simp [hserve, h, ih]

/-- A change that is not governance's is refused wherever it is asked for. -/
theorem refused_of_mem_run {caller : Address} {op : Operation} {note : String} {clock : Clock} {answer : Answer}
    (hmem : (.change caller op note clock, answer) ∈ (g.run requests).1) (hcaller : caller ≠ g.owner) :
    answer = .changed (.error (.unauthorized caller)) := by
  induction requests generalizing g with
  | nil => cases hmem
  | cons request rest ih =>
    rw [run_cons] at hmem
    rcases List.mem_cons.mp hmem with heq | hlater
    · cases heq
      rw [serve_change, if_neg hcaller]
    · exact ih hlater (by rwa [owner_serve])

/-! ## Runs without times -/

theorem untimed_enter (note : String) (time : Timestamp) (g : Guard) (step : Change × Key) :
    (g.enter note time step).untimed = g.untimed.enter note .epoch step := by
  show Guard.mk _ ⟨_, (g.trail.events ++ [_]).map Event.untimed⟩ = _
  rw [List.map_append]
  rfl

theorem untimed_enterAll (note : String) (clock : Clock) (g : Guard) (steps : List (Change × Key)) :
    (g.enterAll note clock steps).untimed = g.untimed.enterAll note .epoch steps := by
  induction steps generalizing g clock with
  | nil => rfl
  | cons step rest ih =>
    rw [enterAll, ih, untimed_enter]
    rfl

theorem serve_untimed (g : Guard) (request : Request) :
    g.untimed.serve request.untimed = ((g.serve request).1.untimed, (g.serve request).2.untimed) := by
  cases request with
  | change caller op note clock =>
    rw [Request.untimed, serve_change, serve_change]
    show (if caller = g.owner then _ else _) = _
    by_cases h : caller = g.owner
    · rw [if_pos h, if_pos h, untimed_enterAll]
      rfl
    · rw [if_neg h, if_neg h]
      rfl
  | authorize sender target data => rfl
  | contains key => rfl
  | events => rfl
  | takeEvents => rfl

/-- The run of a guard without times on requests without times is its run without times. -/
theorem run_untimed (g : Guard) (requests : List Request) :
    g.untimed.run (requests.map (·.untimed)) = (timeless (g.run requests).1, (g.run requests).2.untimed) := by
  induction requests generalizing g with
  | nil => rfl
  | cons request rest ih =>
    rw [List.map_cons, run_cons, serve_untimed, ih]
    rfl

/-- Requests that are alike but for their times are answered alike but for times. -/
theorem run_congr (h : requests.map (·.untimed) = others.map (·.untimed)) :
    timeless (g.run requests).1 = timeless (g.run others).1 ∧
      (g.run requests).2.untimed = (g.run others).2.untimed := by
  have hrun := run_untimed g requests
  rw [h, run_untimed, Prod.mk.injEq] at hrun
  exact ⟨hrun.1.symm, hrun.2.symm⟩

end

/-- Callers other than governance have no influence on a run of some requests; the others are those that are permitted,
    made at any times. -/
structure Uninfluenced (g : Guard) (requests others : List Request) : Prop where
  answered : (g.run requests).1.map Prod.fst = requests
  refused : ∀ caller op note clock answer, (.change caller op note clock, answer) ∈ (g.run requests).1 →
    caller ≠ g.owner → answer = .changed (.error (.unauthorized caller))
  /-- A request that is not permitted leaves nothing behind. -/
  untouched : ∀ before request after, requests = before ++ request :: after → ¬ request.Permitted g.owner →
    (g.run (before ++ [request])).2 = (g.run before).2
  answers : timeless ((g.run requests).1.filter fun answered => answered.1.Permitted g.owner) =
    timeless (g.run others).1
  guard : (g.run requests).2.untimed = (g.run others).2.untimed
  /-- At every point of the run the guard is the one at the same point of the other run. -/
  guards : ∀ before after, requests = before ++ after → ∃ before' after', others = before' ++ after' ∧
    before'.length = (permitted g.owner before).length ∧ (g.run before).2.untimed = (g.run before').2.untimed

/-- Leaving out of a run every change that is not governance's changes no other answer and no guard, but for times. -/
theorem uninfluenced {requests others : List Request} (g : Guard)
    (h : others.map (·.untimed) = (permitted g.owner requests).map (·.untimed)) : Uninfluenced g requests others := by
  have hrun := run_permitted g requests
  obtain ⟨hanswers, hguard⟩ := run_congr (g := g) h
  refine ⟨map_fst_run g requests, fun _ _ _ _ _ => refused_of_mem_run, ?_, ?_, ?_, ?_⟩
  · rintro before request after - hrequest
    rw [← owner_run g before] at hrequest
    obtain ⟨caller, hserve⟩ := serve_of_not_permitted hrequest
    rw [run_append, run, hserve]
    rfl
  · rw [hanswers, hrun]
  · rw [hguard, hrun]
  · rintro before after rfl
    rw [permitted, List.filter_append, List.map_append] at h
    obtain ⟨before', after', rfl, hbefore, -⟩ := List.map_eq_append_iff.mp h
    refine ⟨before', after', rfl, by simpa using congrArg List.length hbefore, ?_⟩
    rw [(run_congr hbefore).2, run_permitted]

/-- A router tries to whitelist itself before governance does so, and again before the events are taken. -/
theorem uninfluenced_router :
    let owner : Address := .ofNat 20 1
    let router : Address := .ofNat 20 2
    let requests (clock : Clock) : List Request := [
      .change router (.whitelistRouter router) "mine" clock,
      .change owner (.whitelistRouter router) "yes" (clock.after 1),
      .change router (.removeApprovalDestination router) "no" (clock.after 3),
      .takeEvents]
    let others (clock : Clock) : List Request := [.change owner (.whitelistRouter router) "yes" clock, .takeEvents]
    let late : Clock := fun i => .ofNanoseconds (i + 1)
    (others late).map (·.untimed) = (permitted (Guard.new owner).owner (requests .epoch)).map (·.untimed) ∧
      Uninfluenced (.new owner) (requests .epoch) (others late) := by
  intro owner router requests others late
  have hothers (clock clock' : Clock) : (others clock').map (·.untimed) =
      (permitted (Guard.new owner).owner (requests clock)).map (·.untimed) := rfl
  exact ⟨hothers .epoch late, uninfluenced (.new owner) (hothers .epoch late)⟩

end Guard

end CallGuard
