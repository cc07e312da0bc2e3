import CallGuard.Proofs.Guard.AuditTrail
import CallGuard.Proofs.Policy.Needs

/-! # Decisions on larger policies

With more entries a call gets at least as far. What it needs is asked for in the order of the stages
(`pairwise_outcomes`), so the first need that the larger policy lacks stands no earlier than the first one that the
smaller lacks (`stage_settle_le`). A run that only approves makes a policy larger, and one that only removes makes it
smaller. The main statement is `authorize_mono`. -/

namespace CallGuard

/-- Every list of the first policy is part of that list of the second, and governance is the same. -/
structure Policy.PartOf (p q : Policy) : Prop where
  governance : p.governance = q.governance
  lists : ∀ kind, p.keys kind ⊆ q.keys kind

theorem Policy.partOf_iff {p q : Policy} :
    p.PartOf q ↔ p.governance = q.governance ∧ ∀ key, key ∈ p → key ∈ q := by
  have hlist : ∀ {p : Policy} {kind : ListKind} {key : Key}, key ∈ p.keys kind ↔ key ∈ p ∧ key.kind = kind := by
    intro p kind key
    rw [Policy.keys, List.mem_filter, decide_eq_true_eq]
    exact Iff.rfl
  constructor
  · intro h
    exact ⟨h.governance, fun key hkey => (hlist.mp (h.lists key.kind (hlist.mpr ⟨hkey, rfl⟩))).1⟩
  · rintro ⟨hgovernance, h⟩
    refine ⟨hgovernance, fun kind key hkey => ?_⟩
    obtain ⟨hmem, hkind⟩ := hlist.mp hkey
    exact hlist.mpr ⟨h key hmem, hkind⟩

namespace Decision
open Layout Outcome

/-- The checks that a call can fail, in the order in which they are made, and that it passes them all. -/
inductive Stage where
  | sender
  | noSelector
  | callSite
  | unknownSelector
  | arguments
  | destination
  | tokenPaid
  | tokenReceived
  | allowed
  deriving DecidableEq

instance : LE Stage := ⟨fun first second => first.ctorIdx ≤ second.ctorIdx⟩

instance (first second : Stage) : Decidable (first ≤ second) :=
  inferInstanceAs (Decidable (first.ctorIdx ≤ second.ctorIdx))

theorem Stage.le_refl (s : Stage) : s ≤ s :=
  Nat.le_refl _

theorem Stage.sender_le (s : Stage) : .sender ≤ s :=
  Nat.zero_le _

/-- The token that the swap of a payload begins with. -/
def tokenPaid? (data : Bytes) : Option Address :=
  match Call.ofPayload data with
  | .ok (.swap c) => c.path.head?
  | _ => none

/-- The stage at which a decision on a payload is made. A token that stands at both ends of a route is refused as the
    token paid. -/
def stage (data : Bytes) : Except Violation Permission → Stage
  | .error (.unauthorized _) | .error (.senderNotAllowed _) => .sender
  | .error (.malformedCallData (.noSelector _)) => .noSelector
  | .error (.callSiteNotAllowed _ _) => .callSite
  | .error (.unknownSelector _) => .unknownSelector
  | .error (.malformedCallData (.layout _ _)) | .error (.malformedCallData .emptyPath) => .arguments
  | .error (.receiverNotAllowed _) | .error (.withdrawDestinationNotAllowed _)
  | .error (.approvalDestinationNotAllowed _) => .destination
  | .error (.assetNotAllowed token) => if tokenPaid? data = some token then .tokenPaid else .tokenReceived
  | .ok _ => .allowed

/-- A decision on a payload goes no less far than another: a permission or a fault of the payload itself stays as it
    is, and whatever else the decision is, it is not made at an earlier stage. -/
structure Advances (data : Bytes) (before after : Except Violation Permission) : Prop where
  allowed : ∀ permission, before = .ok permission → after = .ok permission
  unknown : ∀ selector, before = .error (.unknownSelector selector) → after = .error (.unknownSelector selector)
  malformed : ∀ reason, before = .error (.malformedCallData reason) → after = .error (.malformedCallData reason)
  stage : stage data before ≤ stage data after

/-- What asking for entries can come to, in the order in which they are asked for. -/
def outcomes (asked : List Need) (outcome : Except Violation Permission) : List (Except Violation Permission) :=
  asked.map (fun need => .error need.violation) ++ [outcome]

section
variable {p q : Policy} {outcome : Except Violation Permission} {asked : List Need} {data : Bytes}

theorem settle_mem_outcomes (p : Policy) (outcome : Except Violation Permission) (asked : List Need) :
    settle p outcome asked ∈ outcomes asked outcome := by
  obtain ⟨-, hsettle⟩ | ⟨need, hneed, -, hsettle⟩ := settle_cases p outcome asked
  · rw [hsettle]
    exact List.mem_append_right _ (List.mem_singleton_self _)
  · rw [hsettle]
    exact List.mem_append_left _ (List.mem_map_of_mem hneed)

/-- Where later needs are of later stages, a larger policy decides no earlier. -/
theorem stage_settle_le (hsub : ∀ key, key ∈ p → key ∈ q)
    (hordered : ((outcomes asked outcome).map (stage data)).Pairwise (· ≤ ·)) :
    stage data (settle p outcome asked) ≤ stage data (settle q outcome asked) := by
  induction asked with
  | nil => exact Stage.le_refl _
  | cons need rest ih =>
    obtain ⟨hfirst, hrest⟩ := List.pairwise_cons.mp hordered
    rw [settle, settle]
    by_cases hp : need.key ∈ p
    · rw [if_pos hp, if_pos (hsub _ hp)]
      exact ih hrest
    · rw [if_neg hp]
      by_cases hq : need.key ∈ q
      · rw [if_pos hq]
        exact hfirst _ (List.mem_map_of_mem (settle_mem_outcomes q outcome rest))
      · rw [if_neg hq]
        exact Stage.le_refl _

/-- A violation that misses no entry is what the payload comes to, and nothing is missing. -/
theorem settle_of_missing?_eq_none {v : Violation} (hasked : ∀ need ∈ asked, need.violation.missing? = some need.key)
    (hv : v.missing? = none) (h : settle p outcome asked = .error v) :
    (∀ need ∈ asked, need.key ∈ p) ∧ outcome = .error v := by
  obtain ⟨hall, hsettle⟩ | ⟨need, hneed, -, hsettle⟩ := settle_cases p outcome asked
  · exact ⟨hall, hsettle.symm.trans h⟩
  · rw [hsettle] at h
    cases h
    rw [hasked need hneed] at hv
    cases hv

/-! ## The order of the stages -/

theorem callSite_le_of_ofPayload {s : Selector} {args : Bytes} {v : Violation} (hdata : data = s.bytes ++ args)
    (h : Call.ofPayload data = .error v) : Stage.callSite ≤ stage data (.error v) := by
  obtain ⟨hshort, -⟩ | ⟨_, _, -, -, rfl⟩ | ⟨f, _, reason, -, hreason, rfl⟩ := ofPayload_eq_error.mp h
  · rw [hdata, List.length_append, s.length_bytes] at hshort
    omega
  · show Stage.callSite ≤ .unknownSelector
    decide
  · obtain ⟨fault, -, rfl⟩ | ⟨-, -, -, rfl⟩ := decode_eq_error.mp hreason
    all_goals
      show Stage.callSite ≤ .arguments
      decide

/-- Behind the call site the receiver or destination is asked for first, then the tokens as they are paid. -/
theorem pairwise_flowNeeds {c : Call} {permission : Permission} (hpayload : Call.ofPayload data = .ok c) :
    (Stage.callSite :: (outcomes (flowNeeds c) (.ok permission)).map (stage data)).Pairwise (· ≤ ·) := by
  cases c with
  | swap s =>
    obtain ⟨paid, received, hfirst, hlast⟩ := exists_ends (ofPayload_eq_ok.mp hpayload).routed
    have hpaid : tokenPaid? data = some paid := by
      rw [tokenPaid?, hpayload]
      exact hfirst
    rw [flowNeeds, hfirst, hlast]
    simp only [outcomes, Option.toList, List.cons_append, List.nil_append, List.map_cons, List.map_nil, stage, hpaid,
      ↓reduceIte]
    split <;> decide
  | transfer t =>
    show [Stage.callSite, .destination, .allowed].Pairwise (· ≤ ·)
    decide
  | approve a =>
    show [Stage.callSite, .destination, .allowed].Pairwise (· ≤ ·)
    decide

/-- What a call needs is asked for in the order of the stages. -/
theorem pairwise_outcomes (sender target : Address) (data : Bytes) :
    ((outcomes (needs sender target data) (verdict data)).map (stage data)).Pairwise (· ≤ ·) := by
  refine List.pairwise_cons.mpr ⟨fun s _ => Stage.sender_le s, ?_⟩
  show ((outcomes (payloadNeeds target data) (verdict data)).map (stage data)).Pairwise (· ≤ ·)
  rw [payloadNeeds]
  cases hsplit : Payload.split? data with
  | none => exact List.pairwise_singleton _ _
  | some parts =>
    obtain ⟨s, args⟩ := parts
    rw [verdict]
    cases hpayload : Call.ofPayload data with
    | error v =>
      have hlater := callSite_le_of_ofPayload (Payload.split?_eq_some.mp hsplit) hpayload
      show [Stage.callSite, stage data (.error v)].Pairwise (· ≤ ·)
      exact List.pairwise_pair.mpr hlater
    | ok c => exact pairwise_flowNeeds hpayload

/-! ## Larger policies -/

theorem Advances.refl (data : Bytes) (decided : Except Violation Permission) : Advances data decided decided where
  allowed _ h := h
  unknown _ h := h
  malformed _ h := h
  stage := Stage.le_refl _

theorem advances_of_partOf {sender target : Address} (h : p.PartOf q) :
    Advances data (p.authorize sender target data) (q.authorize sender target data) := by
  obtain ⟨hgovernance, hsub⟩ := Policy.partOf_iff.mp h
  by_cases hsender : sender = p.governance
  · rw [authorize_of_governance hsender, authorize_of_governance (hsender.trans hgovernance)]
    exact Advances.refl data _
  · rw [authorize_eq_settle hsender, authorize_eq_settle (hgovernance ▸ hsender)]
    -- A fault of the payload is found only where nothing is missing.
    have hfault : ∀ v : Violation, v.missing? = none →
        settle p (verdict data) (needs sender target data) = .error v →
          settle q (verdict data) (needs sender target data) = .error v := by
      intro v hv hbefore
      obtain ⟨hall, hverdict⟩ := settle_of_missing?_eq_none (fun _ => missing?_of_mem_needs) hv hbefore
      rw [settle_of_forall_mem fun need hneed => hsub _ (hall need hneed), hverdict]
    constructor
    case allowed =>
      intro permission hbefore
      obtain ⟨hall, hverdict⟩ := settle_eq_ok.mp hbefore
      exact settle_eq_ok.mpr ⟨fun need hneed => hsub _ (hall need hneed), hverdict⟩
    case unknown => exact fun selector => hfault _ rfl
    case malformed => exact fun reason => hfault _ rfl
    case stage => exact stage_settle_le hsub (pairwise_outcomes sender target data)

end

end Decision

/-! ## Runs that only add, and runs that only remove -/

namespace Guard

/-- A request changes entries in one way only, if it is for a change. -/
def Request.Only (what : Change) : Request → Prop
  | .change _ op _ _ => ∀ step ∈ op.steps, step.1 = what
  | .authorize _ _ _ | .contains _ | .events | .takeEvents => True

instance (what : Change) : DecidablePred (Request.Only what)
  | .change _ op _ _ => inferInstanceAs (Decidable (∀ step ∈ op.steps, step.1 = what))
  | .authorize _ _ _ | .contains _ | .events | .takeEvents => inferInstanceAs (Decidable True)

section
variable {g : Guard} {requests : List Request} {what : Change}

theorem change_of_mem_bodiesOf {answered : Request × Answer} {body : Event.Body} (honly : answered.1.Only what)
    (h : body ∈ bodiesOf answered) : body.change = what := by
  unfold bodiesOf at h
  split at h
  · obtain ⟨step, hstep, rfl⟩ := List.mem_map.mp h
    exact honly step hstep
  · cases h

theorem replay_of_only (g : Guard) (honly : ∀ request ∈ requests, request.Only what) :
    ∃ events, (∀ e ∈ events, e.change = what) ∧ (g.run requests).2.policy = g.policy.replay events := by
  obtain ⟨new, hrec, hbodies⟩ := run_recorded g requests
  refine ⟨new, fun e he => ?_, hrec.policy⟩
  have hbody : e.body ∈ (g.run requests).1.flatMap bodiesOf := hbodies ▸ List.mem_map_of_mem he
  obtain ⟨answered, hanswered, hmem⟩ := List.mem_flatMap.mp hbody
  have hrequest : answered.1 ∈ requests := by
    rw [← map_fst_run g requests]
    exact List.mem_map_of_mem hanswered
  exact change_of_mem_bodiesOf (honly _ hrequest) hmem

theorem partOf_run (honly : ∀ request ∈ requests, request.Only .approved) :
    g.policy.PartOf (g.run requests).2.policy := by
  obtain ⟨events, happroved, hpolicy⟩ := replay_of_only g honly
  rw [hpolicy, Policy.partOf_iff, Policy.governance_replay]
  exact ⟨rfl, fun key hkey => (Policy.mem_replay_of_approved happroved).mpr (.inr hkey)⟩

theorem run_partOf (honly : ∀ request ∈ requests, request.Only .removed) :
    (g.run requests).2.policy.PartOf g.policy := by
  obtain ⟨events, hremoved, hpolicy⟩ := replay_of_only g honly
  rw [hpolicy, Policy.partOf_iff, Policy.governance_replay]
  exact ⟨rfl, fun key => Policy.mem_of_mem_replay hremoved⟩

end

end Guard

namespace Decision

/-- With more entries a call goes no less far: it is let through where it was, its payload is refused where it was, and
    no other refusal comes at an earlier stage. So removals alone let nothing through that was refused before, and
    approvals alone take no permission away. -/
theorem authorize_mono (sender target : Address) (data : Bytes) :
    (∀ p q : Policy, p.PartOf q → Advances data (p.authorize sender target data) (q.authorize sender target data)) ∧
    (∀ (g : Guard) requests, (∀ request ∈ requests, request.Only .removed) →
      Advances data ((g.run requests).2.authorize sender target data) (g.authorize sender target data)) ∧
    ∀ (g : Guard) requests, (∀ request ∈ requests, request.Only .approved) →
      Advances data (g.authorize sender target data) ((g.run requests).2.authorize sender target data) :=
  ⟨fun _ _ h => advances_of_partOf h, fun _ _ h => advances_of_partOf (Guard.run_partOf h),
    fun _ _ h => advances_of_partOf (Guard.partOf_run h)⟩

/-- A wallet is let in and a token whitelisted, and then one of the entries is removed again. -/
theorem authorize_mono_token :
    let owner : Address := .ofNat 20 1
    let wallet : Address := .ofNat 20 2
    let token : Address := .ofNat 20 3
    let data := (Call.transfer ⟨wallet, 5⟩).encode
    let approvals : List Guard.Request := [
      .change owner (.allowSender wallet) "in" (.still (.ofNanoseconds 0)),
      .change owner (.whitelistToken token) "token" (fun i => .ofNanoseconds (i + 1))]
    let removals : List Guard.Request :=
      [.change owner (.remove (.sender wallet)) "out" (.still (.ofNanoseconds 3)), .authorize wallet token data]
    let g := ((Guard.new owner).run approvals).2
    Policy.PartOf (.empty owner) g.policy ∧
      Advances data ((Policy.empty owner).authorize wallet token data) (g.policy.authorize wallet token data) ∧
      Advances data ((g.run removals).2.authorize wallet token data) (g.authorize wallet token data) ∧
      Advances data ((Guard.new owner).authorize wallet token data) (g.authorize wallet token data) := by
  intro owner wallet token data approvals removals g
  have happroved : ∀ request ∈ approvals, request.Only .approved := by decide
  have hremoved : ∀ request ∈ removals, request.Only .removed := by decide
  have hpart : Policy.PartOf (.empty owner) g.policy :=
    Policy.partOf_iff.mpr ⟨rfl, fun key hkey => absurd hkey (Policy.not_mem_empty key owner)⟩
  obtain ⟨hpolicies, hafter, hbefore⟩ := authorize_mono wallet token data
  exact ⟨hpart, hpolicies _ _ hpart, hafter g removals hremoved, hbefore (.new owner) approvals happroved⟩

end Decision

end CallGuard
