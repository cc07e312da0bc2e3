import CallGuard.Proofs.Command.Store
import CallGuard.Proofs.Guard.AuditTrail

/-! # Reloading a guard

A guard that is saved to a file and loaded again has the same policy and an empty trail. Nothing else that a guard
answers depends on its trail, so a run that is interrupted by reloads answers like one that is not, and records the same
but for times and numbers, which begin again at zero (`Command.sessions_transparent`). -/

namespace CallGuard

namespace Guard

/-- What is asked, but for the time. -/
def Request.untimed : Request → Request
  | .change caller op note _ => .change caller op note .epoch
  | request => request

/-- What an answer tells, but for the events that are recorded on the trail. -/
def Answer.result : Answer → Answer
  | .listed _ => .listed []
  | .taken _ => .taken []
  | answer => answer

/-- A request and its answer without times and recorded events. -/
def plain (answered : Request × Answer) : Request × Answer :=
  (answered.1.untimed, answered.2.result)

/-- What comes of a run: the requests with their answers, and the guard after it. -/
abbrev Session := List (Request × Answer) × Guard

/-- Everything recorded in a session: what is taken in the course of it, then what is left on the trail. -/
def Session.log (s : Session) : List Event :=
  (s.1.flatMap fun answered => answered.2.batch) ++ s.2.events

/-- What a run adds to what is recorded. -/
def newEvents (g : Guard) (requests : List Request) : List Event :=
  (g.log requests).drop g.events.length

/-! ## Guards of one policy -/

section
variable {g h : Guard} {requests others : List Request}

theorem policy_enterAll (note : String) (clock : Clock) (g : Guard) (steps : List (Change × Key)) :
    (g.enterAll note clock steps).policy = steps.foldl (fun p step => p.apply step.1 step.2) g.policy := by
  induction steps generalizing g clock with
  | nil => rfl
  | cons step rest ih => exact ih _ _

theorem serve_change_of_policy (caller : Address) (op : Operation) (note : String) (clock clock' : Clock)
    (hpolicy : g.policy = h.policy) :
    (g.serve (.change caller op note clock)).1 = (h.serve (.change caller op note clock')).1 ∧
      (g.serve (.change caller op note clock)).2.policy = (h.serve (.change caller op note clock')).2.policy := by
  have howner : g.owner = h.owner := congrArg Policy.governance hpolicy
  rw [serve_change, serve_change, howner]
  by_cases hcaller : caller = h.owner
  · rw [if_pos hcaller, if_pos hcaller]
    refine ⟨rfl, ?_⟩
    rw [policy_enterAll, policy_enterAll, hpolicy]
  · rw [if_neg hcaller, if_neg hcaller]
    exact ⟨rfl, hpolicy⟩

/-- Guards of one policy give the same results and have one policy afterwards. -/
theorem serve_of_policy {request other : Request} (hpolicy : g.policy = h.policy)
    (hrequest : request.untimed = other.untimed) :
    (g.serve request).1.result = (h.serve other).1.result ∧ (g.serve request).2.policy = (h.serve other).2.policy := by
  -- Requests that are alike but for their times are of one kind and have the same parts otherwise.
  cases request with
  | change caller op note clock =>
    cases other <;> cases hrequest
    case change.refl clock' =>
      obtain ⟨hanswer, hlater⟩ := serve_change_of_policy caller op note clock clock' hpolicy
      exact ⟨congrArg Answer.result hanswer, hlater⟩
  | authorize sender target data =>
    cases other <;> cases hrequest
    have hdecided : g.authorize sender target data = h.authorize sender target data := by
      rw [authorize, hpolicy, authorize]
    exact ⟨congrArg Answer.decided hdecided, hpolicy⟩
  | contains key =>
    cases other <;> cases hrequest
    have hcontained : g.policy.contains key = h.policy.contains key := by
      rw [hpolicy]
    exact ⟨congrArg Answer.contained hcontained, hpolicy⟩
  | events =>
    cases other <;> cases hrequest
    exact ⟨rfl, hpolicy⟩
  | takeEvents =>
    cases other <;> cases hrequest
    exact ⟨rfl, hpolicy⟩

theorem run_of_policy (hpolicy : g.policy = h.policy)
    (hrequests : requests.map (·.untimed) = others.map (·.untimed)) :
    (g.run requests).1.map plain = (h.run others).1.map plain ∧
      (g.run requests).2.policy = (h.run others).2.policy := by
  induction requests generalizing g h others with
  | nil =>
    cases others with
    | nil => exact ⟨rfl, hpolicy⟩
    | cons other others => cases hrequests
  | cons request requests ih =>
    cases others with
    | nil => cases hrequests
    | cons other others =>
      obtain ⟨hrequest, hrest⟩ := List.cons_eq_cons.mp hrequests
      obtain ⟨hanswer, hpolicy'⟩ := serve_of_policy hpolicy hrequest
      obtain ⟨hanswers, hlast⟩ := ih hpolicy' hrest
      refine ⟨?_, hlast⟩
      rw [run, run, List.map_cons, List.map_cons, hanswers]
      exact congrArg (· :: _) (Prod.ext hrequest hanswer)

/-- What is on the trail of a guard changes neither its results nor its policy. -/
theorem run_ofPolicy (g : Guard) (requests : List Request) :
    ((ofPolicy g.policy).run requests).1.map plain = (g.run requests).1.map plain ∧
      ((ofPolicy g.policy).run requests).2.policy = (g.run requests).2.policy :=
  run_of_policy rfl rfl

theorem run_append (g : Guard) (requests later : List Request) :
    g.run (requests ++ later) =
      ((g.run requests).1 ++ ((g.run requests).2.run later).1, ((g.run requests).2.run later).2) := by
  induction requests generalizing g with
  | nil => rfl
  | cons request requests ih =>
    rw [List.cons_append, run, run]
    simp only [ih]
    rfl

theorem bodiesOf_plain (answered : Request × Answer) : bodiesOf (plain answered) = bodiesOf answered := by
  obtain ⟨request, answer⟩ := answered
  cases request <;> cases answer
  case change.changed outcome => cases outcome <;> rfl
  all_goals rfl

theorem body_newEvents (g : Guard) (requests : List Request) :
    (g.newEvents requests).map Event.body = ((g.run requests).1.map plain).flatMap bodiesOf := by
  obtain ⟨new, hrec, hbodies⟩ := run_recorded g requests
  have hnew : g.newEvents requests = new := by
    rw [newEvents, log, hrec.events, List.drop_left]
  rw [hnew, hbodies, List.flatMap_map]
  simp only [bodiesOf_plain]

theorem seq_log (hempty : g.trail = .empty) (requests : List Request) :
    (g.log requests).map (·.seq) = List.range (g.log requests).length := by
  obtain ⟨new, hrec, -⟩ := run_recorded g requests
  have hlog : g.log requests = new := by
    rw [log, hrec.events, events, hempty]
    rfl
  rw [hlog, hrec.seqs, hempty, List.range_eq_range']
  rfl

end

/-! ## Sessions -/

/-- The sessions of a guard that is made anew from its policy between them. -/
def reloaded (g : Guard) : List (List Request) → List Session
  | [] => []
  | requests :: later => g.run requests :: reloaded (.ofPolicy (g.run requests).2.policy) later

section
variable {g : Guard}

theorem length_reloaded (g : Guard) (requests : List (List Request)) :
    (g.reloaded requests).length = requests.length := by
  induction requests generalizing g with
  | nil => rfl
  | cons first later ih => rw [reloaded, List.length_cons, ih, List.length_cons]

theorem plain_reloaded (g : Guard) (requests : List (List Request)) :
    ((g.reloaded requests).flatMap (·.1)).map plain = (g.run requests.flatten).1.map plain := by
  induction requests generalizing g with
  | nil => rfl
  | cons first later ih =>
    have hsame := (run_ofPolicy (g.run first).2 later.flatten).1
    rw [reloaded, List.flatMap_cons, List.map_append, ih, hsame, List.flatten_cons, run_append, List.map_append]

theorem policy_reloaded (g : Guard) (first : List Request) (later : List (List Request)) :
    ∃ last, (g.reloaded (first :: later)).getLast? = some last ∧
      last.2.policy = (g.run (first :: later).flatten).2.policy := by
  induction later generalizing g first with
  | nil =>
    refine ⟨g.run first, rfl, ?_⟩
    rw [List.flatten_cons, List.flatten_nil, List.append_nil]
  | cons next later ih =>
    obtain ⟨last, hlast, hpolicy⟩ := ih (.ofPolicy (g.run first).2.policy) next
    have hsame := (run_ofPolicy (g.run first).2 (next :: later).flatten).2
    refine ⟨last, ?_, ?_⟩
    · rw [reloaded, List.getLast?_cons, hlast]
      rfl
    · rw [hpolicy, hsame, List.flatten_cons (L := next :: later), run_append]

/-- Where a session begins, the guard has the policy that it has without reloads, and nothing is on its trail. -/
theorem reloaded_at (g : Guard) (before : List (List Request)) (now : List Request) (after : List (List Request)) :
    ∃ g' : Guard, (g.reloaded (before ++ now :: after))[before.length]? = some (g'.run now) ∧
      g'.policy = (g.run before.flatten).2.policy ∧ (before ≠ [] ∨ g.trail = .empty → g'.trail = .empty) := by
  induction before generalizing g with
  | nil =>
    refine ⟨g, rfl, rfl, ?_⟩
    rintro (h | h)
    · exact absurd rfl h
    · exact h
  | cons first before ih =>
    obtain ⟨g', hsession, hpolicy, htrail⟩ := ih (.ofPolicy (g.run first).2.policy)
    have hsame := (run_ofPolicy (g.run first).2 before.flatten).2
    refine ⟨g', hsession, ?_, fun _ => htrail (.inr rfl)⟩
    rw [hpolicy, hsame, List.flatten_cons, run_append]

end

/-- Sessions in which the requests of one run are answered, told apart from that run by nothing but times, the numbers
    of events, and which events are still on the trail. -/
structure Transparent (g : Guard) (requests : List (List Request)) (sessions : List Session) : Prop where
  length : sessions.length = requests.length
  answers : (sessions.flatMap (·.1)).map plain = (g.run requests.flatten).1.map plain
  policy : ∃ last, sessions.getLast? = some last ∧ last.2.policy = (g.run requests.flatten).2.policy
  /-- What is recorded after a reload is what is recorded without it, numbered from zero. -/
  events : ∀ before now after, requests = before ++ now :: after → before ≠ [] →
    ∃ session, sessions[before.length]? = some session ∧
      session.log.map Event.body = ((g.run before.flatten).2.newEvents now).map Event.body ∧
      session.log.map (·.seq) = List.range session.log.length

theorem transparent_reloaded {g : Guard} {first : List Request} {later requests : List (List Request)}
    (hrequests : (first :: later).map (·.map (·.untimed)) = requests.map (·.map (·.untimed))) :
    Transparent g requests (g.reloaded (first :: later)) := by
  have hflat : ∀ {these others : List (List Request)}, these.map (·.map (·.untimed)) = others.map (·.map (·.untimed)) →
      these.flatten.map (·.untimed) = others.flatten.map (·.untimed) := by
    intro these others h
    rw [List.map_flatten, h, List.map_flatten]
  obtain ⟨hanswers, hpolicy⟩ := run_of_policy (g := g) rfl (hflat hrequests)
  refine ⟨?_, ?_, ?_, ?_⟩
  · have hlength := congrArg List.length hrequests
    rw [List.length_map, List.length_map] at hlength
    rw [length_reloaded, hlength]
  · rw [plain_reloaded, hanswers]
  · obtain ⟨last, hlast, hlater⟩ := policy_reloaded g first later
    exact ⟨last, hlast, hlater.trans hpolicy⟩
  · intro before now after hsplit hbefore
    subst hsplit
    -- The two runs differ in times only, so the sessions are cut off at the same places.
    obtain ⟨before', rest, hsplit, hlike, hrest⟩ := List.map_eq_append_iff.mp (hrequests.trans List.map_append)
    obtain ⟨now', after', rfl, hnow, -⟩ := List.map_eq_cons_iff.mp hrest
    have hlength : before'.length = before.length := by simpa using congrArg List.length hlike
    have hbefore' : before' ≠ [] := by
      rintro rfl
      exact hbefore (List.length_eq_zero_iff.mp hlength.symm)
    obtain ⟨g', hsession, hsame, htrail⟩ := reloaded_at g before' now' after'
    have hempty := htrail (.inl hbefore')
    have hlater := hsame.trans (run_of_policy rfl (hflat hlike)).2
    have hlog : g'.log now' = g'.newEvents now' := by
      rw [newEvents, Guard.events, hempty]
      rfl
    refine ⟨g'.run now', ?_, ?_, seq_log hempty now'⟩
    · rw [hsplit, ← hlength, hsession]
    · show (g'.log now').map Event.body = _
      rw [hlog, body_newEvents, body_newEvents, (run_of_policy hlater hnow).1]

end Guard

namespace Command
open Guard (Session)

/-- Answers the requests of sessions in turn. Between two sessions the guard is saved and loaded again. -/
def sessions (path : String) (g : Guard) (first : List Guard.Request) :
    List (List Guard.Request) → Command (List Session)
  | [] => return [g.run first]
  | next :: later => do
    save path (g.run first).2
    let reloaded ← load path
    return g.run first :: (← sessions path reloaded next later)

theorem runOn_sessions {w : World} {path : String} (hpath : w.disk.Writable path) (g : Guard)
    (first : List Guard.Request) (later : List (List Guard.Request)) :
    ∃ w', runOn (sessions path g first later) w = (.ok (g.reloaded (first :: later)), w') := by
  induction later generalizing g first w with
  | nil => exact ⟨w, rfl⟩
  | cons next later ih =>
    obtain ⟨w₁, hsave⟩ := exists_save hpath (g.run first).2
    have hsaved := saved_of_save hsave
    obtain ⟨w₂, hlater⟩ := ih hsaved.writable (.ofPolicy (g.run first).2.policy) next
    refine ⟨w₂, ?_⟩
    rw [sessions, runOn_bind_ok hsave, runOn_bind_ok (load_saved hsaved), runOn_bind_ok hlater]
    rfl

/-- Saving a guard and loading it again at any points of a run makes no difference: the text of its snapshot is read
    back to the snapshot and makes a guard of the same policy with nothing recorded, and whatever the sessions between
    the reloads are, they are those of the run without reloads. -/
theorem sessions_transparent {w : World} {path : String} {first : List Guard.Request}
    {later requests : List (List Guard.Request)} (hpath : w.disk.Writable path)
    (hrequests : (first :: later).map (·.map (·.untimed)) = requests.map (·.map (·.untimed))) (g : Guard) :
    Snapshot.read g.snapshot.text = .ok g.snapshot ∧
      (∃ g', Guard.ofSnapshot g.snapshot = .ok g' ∧ g'.policy = g.policy ∧ g'.trail = .empty) ∧
      ∃ outcome w', runOn (sessions path g first later) w = (.ok outcome, w') ∧ g.Transparent requests outcome := by
  obtain ⟨w', hrun⟩ := runOn_sessions hpath g first later
  refine ⟨Snapshot.read_text _, ⟨_, Guard.ofSnapshot_snapshot g, rfl, rfl⟩, _, w', hrun, ?_⟩
  exact Guard.transparent_reloaded hrequests

/-- A token is whitelisted and one of its entries removed, with a reload before and after an unauthorised try. -/
theorem sessions_transparent_token :
    let w : World := ⟨.empty, "", "", none, .epoch⟩
    let owner : Address := .ofNat 20 1
    let token : Address := .ofNat 20 2
    let transfer := Key.ofCallSite token Function.transfer.selector
    let first (clock : Clock) : List Guard.Request :=
      [.change owner (.whitelistToken token) "token" clock, .takeEvents]
    let later (clock : Clock) : List (List Guard.Request) :=
      [[.change token (.remove transfer) "not mine" clock, .contains transfer],
        [.change owner (.remove transfer) "no more" clock, .contains transfer, .events]]
    let early : Clock := fun i => .ofNanoseconds (i + 1)
    let late : Clock := fun i => .ofNanoseconds (i + 2)
    w.disk.Writable "data/policy.json" ∧ early ≠ late ∧
      ∃ outcome w', runOn (sessions "data/policy.json" (.new owner) (first early) (later early)) w = (.ok outcome, w') ∧
        (Guard.new owner).Transparent (first late :: later late) outcome := by
  intro w owner token transfer first later early late
  have hpath : w.disk.Writable "data/policy.json" := by
    refine ⟨Disk.empty.put ["data"] .folder, ["data", "policy.json"], "", rfl, ?_⟩
    simp [Disk.target, Disk.locate]
    rfl
  have hdiffer : early ≠ late := fun h => absurd (congrFun h 0) (by decide)
  refine ⟨hpath, hdiffer, ?_⟩
  have hrequests (clock clock' : Clock) : (first clock :: later clock).map (·.map (·.untimed)) =
      (first clock' :: later clock').map (·.map (·.untimed)) := rfl
  exact (sessions_transparent hpath (hrequests early late) (.new owner)).2.2

end Command

end CallGuard
