import CallGuard.Proofs.Call.RoundTrip
import CallGuard.Proofs.Policy.Decision

/-! # What a decision rests on

A call needs a few entries, which are asked for one after the other. The first one that is missing is the reason for
which the call is refused, and where none is missing the payload alone decides (`authorize_eq_settle`). So a decision
rests on these entries and on nothing else of the policy, and a call that is let through needs every one of them
(`authorize_rests_on`). -/

namespace CallGuard

/-- The entry that is missing where a call is refused. -/
def Violation.missing? : Violation → Option Key
  | .senderNotAllowed sender => some (.sender sender)
  | .callSiteNotAllowed target selector => some (.ofCallSite target selector)
  | .receiverNotAllowed receiver => some (.sender receiver)
  | .assetNotAllowed token => some (.asset token)
  | .withdrawDestinationNotAllowed destination => some (.withdrawDestination destination)
  | .approvalDestinationNotAllowed spender => some (.approvalDestination spender)
  | .unauthorized _ | .unknownSelector _ | .malformedCallData _ => none

namespace Decision
open Layout Outcome

/-- An entry that is asked for, and the violation where it is missing. -/
structure Need where
  key : Key
  violation : Violation

/-- What a call needs for letting value flow where it does, in the order in which it is asked for. -/
def flowNeeds : Call → List Need
  | .swap c =>
    ⟨.sender c.recipient, .receiverNotAllowed c.recipient⟩ ::
      (c.path.head?.toList ++ c.path.getLast?.toList).map fun token => ⟨.asset token, .assetNotAllowed token⟩
  | .transfer c => [⟨.withdrawDestination c.recipient, .withdrawDestinationNotAllowed c.recipient⟩]
  | .approve c => [⟨.approvalDestination c.spender, .approvalDestinationNotAllowed c.spender⟩]

/-- What a payload needs besides its sender: the call site if it has a selector, and what its call needs if it makes
    one. -/
def payloadNeeds (target : Address) (data : Bytes) : List Need :=
  match Payload.split? data with
  | none => []
  | some (s, _) =>
    ⟨.ofCallSite target s, .callSiteNotAllowed target s⟩ ::
      match Call.ofPayload data with
      | .ok c => flowNeeds c
      | .error _ => []

/-- What a sender other than governance needs, in the order in which it is asked for. -/
def needs (sender target : Address) (data : Bytes) : List Need :=
  ⟨.sender sender, .senderNotAllowed sender⟩ :: payloadNeeds target data

/-- What is decided where nothing is missing. -/
def verdict (data : Bytes) : Except Violation Permission :=
  (Call.ofPayload data).map fun c => .call c.function

/-- The violation of the first need that is missing, or else an outcome. -/
def settle (p : Policy) (outcome : Except Violation Permission) : List Need → Except Violation Permission
  | [] => outcome
  | need :: rest => if need.key ∈ p then settle p outcome rest else .error need.violation

section
variable {p q : Policy} {outcome : Except Violation Permission} {asked : List Need}

/-! ## Asking for entries -/

theorem settle_of_forall_mem (h : ∀ need ∈ asked, need.key ∈ p) : settle p outcome asked = outcome := by
  induction asked with
  | nil => rfl
  | cons need rest ih =>
    obtain ⟨hneed, hrest⟩ := List.forall_mem_cons.mp h
    rw [settle, if_pos hneed, ih hrest]

/-- Either nothing is missing and the outcome stands, or something is and its violation is the answer. -/
theorem settle_cases (p : Policy) (outcome : Except Violation Permission) (asked : List Need) :
    (∀ need ∈ asked, need.key ∈ p) ∧ settle p outcome asked = outcome ∨
      ∃ need ∈ asked, need.key ∉ p ∧ settle p outcome asked = .error need.violation := by
  induction asked with
  | nil => exact .inl ⟨nofun, rfl⟩
  | cons need rest ih =>
    rw [settle]
    by_cases h : need.key ∈ p
    · rw [if_pos h]
      rcases ih with ⟨hrest, hsettle⟩ | ⟨other, hother, hmissing⟩
      · exact .inl ⟨List.forall_mem_cons.mpr ⟨h, hrest⟩, hsettle⟩
      · exact .inr ⟨other, List.mem_cons_of_mem _ hother, hmissing⟩
    · rw [if_neg h]
      exact .inr ⟨need, List.mem_cons_self, h, rfl⟩

theorem settle_eq_ok {permission : Permission} :
    settle p outcome asked = .ok permission ↔ (∀ need ∈ asked, need.key ∈ p) ∧ outcome = .ok permission := by
  constructor
  · intro h
    obtain ⟨hall, hsettle⟩ | ⟨need, -, -, hsettle⟩ := settle_cases p outcome asked
    · exact ⟨hall, hsettle.symm.trans h⟩
    · rw [hsettle] at h
      cases h
  · rintro ⟨hall, rfl⟩
    exact settle_of_forall_mem hall

theorem settle_congr (h : ∀ need ∈ asked, need.key ∈ p ↔ need.key ∈ q) :
    settle p outcome asked = settle q outcome asked := by
  induction asked with
  | nil => rfl
  | cons need rest ih =>
    obtain ⟨hneed, hrest⟩ := List.forall_mem_cons.mp h
    rw [settle, settle, ih hrest]
    simp only [hneed]

/-- Without one entry the first need of that entry is missing, where nothing was. -/
theorem settle_remove {key : Key} (h : ∀ need ∈ asked, need.key ∈ p) (hkey : key ∈ asked.map Need.key) :
    ∃ need ∈ asked, need.key = key ∧ settle (p.remove key) outcome asked = .error need.violation := by
  induction asked with
  | nil => cases hkey
  | cons need rest ih =>
    obtain ⟨hneed, hrest⟩ := List.forall_mem_cons.mp h
    rw [settle]
    by_cases hfirst : need.key = key
    · refine ⟨need, List.mem_cons_self, hfirst, if_neg ?_⟩
      rw [Policy.mem_remove]
      exact fun hstill => hstill.2 hfirst
    · have hlater : key ∈ rest.map Need.key := (List.mem_cons.mp hkey).resolve_left (Ne.symm hfirst)
      obtain ⟨other, hother, hsame, hsettle⟩ := ih hrest hlater
      refine ⟨other, List.mem_cons_of_mem _ hother, hsame, ?_⟩
      rw [if_pos (Policy.mem_remove.mpr ⟨hneed, hfirst⟩), hsettle]

/-! ## The needs of a payload -/

theorem require_bind {key : Key} {allowed : Bool} {reason : Violation} (h : allowed = true ↔ key ∈ p)
    (next : Unit → Except Violation Permission) :
    (Policy.require allowed reason >>= next) = if key ∈ p then next () else .error reason := by
  rw [Policy.require]
  by_cases hkey : key ∈ p
  · rw [if_pos (h.mpr hkey), if_pos hkey]
    rfl
  · rw [if_neg (mt h.mp hkey), if_neg hkey]
    rfl

theorem check_bind {c : Call} (hr : Routed c) : (p.check c >>= fun _ => outcome) = settle p outcome (flowNeeds c) := by
  cases c with
  | swap s =>
    obtain ⟨paid, received, hfirst, hlast⟩ := exists_ends hr
    rw [Policy.check, checkSwap_eq hfirst hlast, flowNeeds, hfirst, hlast]
    simp only [bind_assoc, require_bind Policy.isAllowedReceiver_iff, require_bind Policy.isAllowedAsset_iff]
    rfl
  | transfer t => exact require_bind Policy.isAllowedWithdrawDestination_iff _
  | approve a => exact require_bind Policy.isAllowedApprovalDestination_iff _

variable {sender target : Address} {data : Bytes}

/-- What is done with the call that a payload makes is done with the one that is decoded for the function of its
    selector. -/
theorem ofPayload_bind {s : Selector} (hs : Payload.selector data = .ok s)
    (next : Function → Call → Except Violation Permission) :
    (Call.ofPayload data >>= fun c => next c.function c) =
      Function.ofSelector s >>= fun f => (Call.decode f data).mapError .malformedCallData >>= next f := by
  rw [Call.ofPayload, hs]
  show ((Function.ofSelector s >>= _) >>= _) = _
  rw [bind_assoc]
  refine congrArg (Function.ofSelector s >>= ·) (funext fun f => ?_)
  cases hdecode : Call.decode f data with
  | error reason => rfl
  | ok c =>
    obtain ⟨rfl, -⟩ := decode_eq_ok.mp hdecode
    rfl

/-- The decision on a call of a sender other than governance asks for the needs one after the other. -/
theorem authorize_eq_settle (h : sender ≠ p.governance) :
    p.authorize sender target data = settle p (verdict data) (needs sender target data) := by
  rw [Policy.authorize, if_neg (mt Policy.isGovernance_iff.mp h), require_bind Policy.isAllowedSender_iff, needs,
    settle, payloadNeeds]
  refine if_congr Iff.rfl ?_ rfl
  cases hsplit : Payload.split? data with
  | none =>
    have hselector : Payload.selector data = .error (.malformedCallData (.noSelector data.length)) := by
      rw [Payload.selector, hsplit]
    rw [settle, verdict, Call.ofPayload, hselector]
    rfl
  | some parts =>
    obtain ⟨s, args⟩ := parts
    have hselector : Payload.selector data = .ok s := by
      rw [Payload.selector, hsplit]
    rw [hselector]
    show (Policy.require _ _ >>= _) = settle p (verdict data) (_ :: _)
    rw [require_bind Policy.isAllowedCallSite_iff, settle, verdict, ← ofPayload_bind hselector]
    refine if_congr Iff.rfl ?_ rfl
    cases hpayload : Call.ofPayload data with
    | error v => rfl
    | ok c => exact check_bind (ofPayload_eq_ok.mp hpayload).routed

/-! ## What the needs are -/

theorem missing?_of_mem_flowNeeds {c : Call} {need : Need} (h : need ∈ flowNeeds c) :
    need.violation.missing? = some need.key := by
  cases c with
  | swap s =>
    rcases List.mem_cons.mp h with rfl | h
    · rfl
    · obtain ⟨token, -, rfl⟩ := List.mem_map.mp h
      rfl
  | transfer t =>
    obtain rfl := List.mem_singleton.mp h
    rfl
  | approve a =>
    obtain rfl := List.mem_singleton.mp h
    rfl

theorem length_flowNeeds_le (c : Call) : (flowNeeds c).length ≤ 3 := by
  cases c with
  | swap s =>
    have hlength (token : Option Address) : token.toList.length ≤ 1 := by
      cases token <;> simp
    have hfirst := hlength s.path.head?
    have hlast := hlength s.path.getLast?
    rw [flowNeeds, List.length_cons, List.length_map, List.length_append]
    omega
  | transfer t => exact Nat.le_add_left 1 2
  | approve a => exact Nat.le_add_left 1 2

/-- A violation tells which entry is missing. -/
theorem missing?_of_mem_needs {need : Need} (h : need ∈ needs sender target data) :
    need.violation.missing? = some need.key := by
  rcases List.mem_cons.mp h with rfl | h
  · rfl
  · rw [payloadNeeds] at h
    split at h
    · cases h
    · rcases List.mem_cons.mp h with rfl | h
      · rfl
      · split at h
        · exact missing?_of_mem_flowNeeds h
        · cases h

theorem needs_of_makes {c : Call} (h : Makes data c) :
    needs sender target data =
      ⟨.sender sender, .senderNotAllowed sender⟩ ::
        ⟨.ofCallSite target c.function.selector, .callSiteNotAllowed target c.function.selector⟩ :: flowNeeds c := by
  have hpayload := ofPayload_eq_ok.mpr h
  obtain ⟨args, hdata, -⟩ := h
  rw [needs, payloadNeeds, Payload.split?_eq_some.mpr hdata, hpayload]

theorem length_needs_le (sender target : Address) (data : Bytes) : (needs sender target data).length ≤ 5 := by
  rw [needs, payloadNeeds, List.length_cons]
  split
  · decide
  · rw [List.length_cons]
    split
    · rename_i c _
      have hflow := length_flowNeeds_le c
      omega
    · decide

theorem ne_governance_of_call {f : Function} (h : p.authorize sender target data = .ok (.call f)) :
    sender ≠ p.governance := by
  intro hsender
  rw [authorize_of_governance hsender] at h
  cases h

end

/-- The keys that the decision on a call of a sender other than governance rests on: the sender, the call site if the
    payload has a selector, and if it makes a call the receiver and the two ends of the route of a swap, the destination
    of a transfer, or the spender of an approval. -/
def relevantKeys (sender target : Address) (data : Bytes) : List Key :=
  (needs sender target data).map Need.key

/-- A decision rests on at most five entries: policies of one governance identity that agree on these decide alike. A
    call that is let through needs every one of them: without any single one it is refused, and the violation names the
    entry that is missing. -/
theorem authorize_rests_on (sender target : Address) (data : Bytes) :
    (relevantKeys sender target data).length ≤ 5 ∧
    (∀ p q : Policy, p.governance = q.governance → (∀ key ∈ relevantKeys sender target data, key ∈ p ↔ key ∈ q) →
      p.authorize sender target data = q.authorize sender target data) ∧
    ∀ (p : Policy) f, p.authorize sender target data = .ok (.call f) →
      ∀ key ∈ relevantKeys sender target data, key ∈ p ∧
        ∃ v, (p.remove key).authorize sender target data = .error v ∧ v.missing? = some key := by
  refine ⟨?_, fun p q hgovernance hagree => ?_, fun p f hallowed key hkey => ?_⟩
  · rw [relevantKeys, List.length_map]
    exact length_needs_le sender target data
  · by_cases h : sender = p.governance
    · rw [authorize_of_governance h, authorize_of_governance (h.trans hgovernance)]
    · rw [authorize_eq_settle h, authorize_eq_settle (hgovernance ▸ h)]
      exact settle_congr fun need hneed => hagree need.key (List.mem_map_of_mem hneed)
  · have h := ne_governance_of_call hallowed
    rw [authorize_eq_settle h, settle_eq_ok] at hallowed
    obtain ⟨need, hneed, rfl, hsettle⟩ := settle_remove hallowed.1 hkey
    refine ⟨hallowed.1 need hneed, need.violation, ?_, missing?_of_mem_needs hneed⟩
    have hstill : sender ≠ (p.remove need.key).governance := h
    rw [authorize_eq_settle hstill, hsettle]

/-- A wallet swaps a token for itself along a route of that token alone, so that two entries are asked for twice. -/
theorem authorize_rests_on_alias :
    let wallet : Address := .ofNat 20 2
    let router : Address := .ofNat 20 3
    let token : Address := .ofNat 20 4
    let data := (Call.swap ⟨1, 2, [token], wallet, 9999⟩).encode
    let p := (((Policy.empty (.ofNat 20 1)).allow (.sender wallet)).allow
      (.ofCallSite router Function.swap.selector)).allow (.asset token)
    p.authorize wallet router data = .ok (.call .swap) ∧
      (p.allow (.sender router)).authorize wallet router data = .ok (.call .swap) ∧
      Key.asset token ∈ relevantKeys wallet router data ∧
      ∃ v, (p.remove (.asset token)).authorize wallet router data = .error v ∧ v.missing? = some (.asset token) := by
  intro wallet router token data p
  have hmakes : Makes data (.swap ⟨1, 2, [token], wallet, 9999⟩) := by
    have h := makes_encode (c := .swap ⟨1, 2, [token], wallet, 9999⟩) (by decide) (by decide) []
    rwa [List.append_nil] at h
  have hwallet : Key.sender wallet ∈ p := by simp [p]
  have hsite : Key.ofCallSite router Function.swap.selector ∈ p := by simp [p]
  have htoken : Key.asset token ∈ p := by simp [p]
  have hallowed : p.authorize wallet router data = .ok (.call .swap) := by
    refine (authorize_eq_ok (by decide)).mpr ⟨hwallet, _, hmakes, hsite, ?_, rfl⟩
    exact ⟨hwallet, token, token, rfl, rfl, htoken, htoken⟩
  have hkeys : relevantKeys wallet router data =
      [.sender wallet, .ofCallSite router Function.swap.selector, .sender wallet, .asset token, .asset token] := by
    rw [relevantKeys, needs_of_makes hmakes]
    rfl
  have hagree : ∀ key ∈ relevantKeys wallet router data, key ∈ p ↔ key ∈ p.allow (.sender router) := by
    intro key hkey
    have hother : key ≠ .sender router := by
      rintro rfl
      rw [hkeys] at hkey
      revert hkey
      decide
    exact ⟨fun h => Policy.mem_allow.mpr (.inr h), fun h => (Policy.mem_allow.mp h).resolve_left hother⟩
  have hasked : Key.asset token ∈ relevantKeys wallet router data := by simp [hkeys]
  obtain ⟨-, hsame, hneeded⟩ := authorize_rests_on wallet router data
  have hother := (hsame p (p.allow (.sender router)) rfl hagree).symm.trans hallowed
  exact ⟨hallowed, hother, hasked, (hneeded p .swap hallowed _ hasked).2⟩

end Decision

end CallGuard
