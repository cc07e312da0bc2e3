import CallGuard.Policy.Authorize
import CallGuard.Proofs.Call.Grammar

/-! # The decision on a call

Governance may do anything. Every other sender is let through exactly if all conditions on the sender, the call site,
the payload and the flow of value are met, and is otherwise refused for the first condition that is not. The conditions
on the payload are those of its layout. The main statement is `authorize_iff`. -/

namespace CallGuard.Decision
open Layout Outcome

/-- Where a call lets value flow is allowed. -/
def Lawful (p : Policy) : Call → Prop
  | .swap c =>
    Key.sender c.recipient ∈ p ∧
      ∃ paid received, c.path.head? = some paid ∧ c.path.getLast? = some received ∧
        Key.asset paid ∈ p ∧ Key.asset received ∈ p
  | .transfer c => Key.withdrawDestination c.recipient ∈ p
  | .approve c => Key.approvalDestination c.spender ∈ p

/-- The first reason for which a call may not let value flow where it does: the receiver of a swap is looked at before
    the token paid, and that before the token received. -/
inductive Unlawful (p : Policy) : Call → Violation → Prop
  | receiver {c : Swap} (h : Key.sender c.recipient ∉ p) : Unlawful p (.swap c) (.receiverNotAllowed c.recipient)
  | paid {c : Swap} {paid : Address} (hto : Key.sender c.recipient ∈ p) (hfirst : c.path.head? = some paid)
      (h : Key.asset paid ∉ p) : Unlawful p (.swap c) (.assetNotAllowed paid)
  | received {c : Swap} {paid received : Address} (hto : Key.sender c.recipient ∈ p)
      (hfirst : c.path.head? = some paid) (hpaid : Key.asset paid ∈ p) (hlast : c.path.getLast? = some received)
      (h : Key.asset received ∉ p) : Unlawful p (.swap c) (.assetNotAllowed received)
  | destination {c : Transfer} (h : Key.withdrawDestination c.recipient ∉ p) :
      Unlawful p (.transfer c) (.withdrawDestinationNotAllowed c.recipient)
  | spender {c : Approval} (h : Key.approvalDestination c.spender ∉ p) :
      Unlawful p (.approve c) (.approvalDestinationNotAllowed c.spender)

/-- The first condition that a call of a sender other than governance does not meet, as the reason for the refusal. -/
inductive Refused (p : Policy) (sender target : Address) (data : Bytes) : Violation → Prop
  | sender (h : Key.sender sender ∉ p) : Refused p sender target data (.senderNotAllowed sender)
  | noSelector (hsender : Key.sender sender ∈ p) (h : data.length < 4) :
      Refused p sender target data (.malformedCallData (.noSelector data.length))
  | callSite {s : Selector} {args : Bytes} (hsender : Key.sender sender ∈ p) (hdata : data = s.bytes ++ args)
      (h : Key.ofCallSite target s ∉ p) : Refused p sender target data (.callSiteNotAllowed target s)
  | selector {s : Selector} {args : Bytes} (hsender : Key.sender sender ∈ p) (hdata : data = s.bytes ++ args)
      (hsite : Key.ofCallSite target s ∈ p) (h : ∀ f : Function, f.selector ≠ s) :
      Refused p sender target data (.unknownSelector s)
  | arguments {f : Function} {args : Bytes} {fault : LayoutFault} (hsender : Key.sender sender ∈ p)
      (hdata : data = f.selector.bytes ++ args) (hsite : Key.ofCallSite target f.selector ∈ p) (h : ¬ Shaped f args)
      (hfault : Call.decodeArguments f data = .error fault) :
      Refused p sender target data (.malformedCallData (.layout f fault))
  | route {args : Bytes} (hsender : Key.sender sender ∈ p) (hdata : data = Function.swap.selector.bytes ++ args)
      (hsite : Key.ofCallSite target Function.swap.selector ∈ p) (hfits : SwapFits args) (h : count args = 0) :
      Refused p sender target data (.malformedCallData .emptyPath)
  | flow {c : Call} {v : Violation} (hsender : Key.sender sender ∈ p) (hmakes : Makes data c)
      (hsite : Key.ofCallSite target c.function.selector ∈ p) (h : Unlawful p c v) : Refused p sender target data v

section
variable {p : Policy}

theorem require_eq_ok {allowed : Bool} {reason : Violation} {u : Unit} :
    Policy.require allowed reason = .ok u ↔ allowed = true := by
  rw [Policy.require]
  split <;> simp_all

theorem require_eq_error {allowed : Bool} {reason v : Violation} :
    Policy.require allowed reason = .error v ↔ ¬ allowed = true ∧ v = reason := by
  rw [Policy.require]
  split <;> simp_all [eq_comm]

/-! ## The flow of value -/

theorem checkSwap_eq {c : Swap} {paid received : Address} (hfirst : c.path.head? = some paid)
    (hlast : c.path.getLast? = some received) :
    p.checkSwap c = (do
      Policy.require (p.isAllowedReceiver c.recipient) (.receiverNotAllowed c.recipient)
      Policy.require (p.isAllowedAsset paid) (.assetNotAllowed paid)
      Policy.require (p.isAllowedAsset received) (.assetNotAllowed received)) := by
  rw [Policy.checkSwap, hfirst, hlast]

/-- A route with a token has a first and a last one. -/
theorem exists_ends {c : Swap} (h : Routed (.swap c)) :
    ∃ paid received, c.path.head? = some paid ∧ c.path.getLast? = some received :=
  ⟨_, _, List.head?_eq_some_head h, List.getLast?_eq_some_getLast h⟩

theorem check_eq_ok {c : Call} (hr : Routed c) : p.check c = .ok () ↔ Lawful p c := by
  cases c with
  | swap s =>
    obtain ⟨paid, received, hfirst, hlast⟩ := exists_ends hr
    rw [Policy.check, checkSwap_eq hfirst hlast, bind_eq_ok]
    simp only [bind_eq_ok, require_eq_ok, Policy.isAllowedReceiver_iff, Policy.isAllowedAsset_iff, Lawful, hfirst,
      hlast, Option.some.injEq]
    constructor
    · rintro ⟨_, hto, _, hpaid, hreceived⟩
      exact ⟨hto, paid, received, rfl, rfl, hpaid, hreceived⟩
    · rintro ⟨hto, _, _, rfl, rfl, hpaid, hreceived⟩
      exact ⟨(), hto, (), hpaid, hreceived⟩
  | transfer t => exact require_eq_ok.trans Policy.isAllowedWithdrawDestination_iff
  | approve a => exact require_eq_ok.trans Policy.isAllowedApprovalDestination_iff

theorem check_eq_error {c : Call} (hr : Routed c) {v : Violation} : p.check c = .error v ↔ Unlawful p c v := by
  cases c with
  | swap s =>
    obtain ⟨paid, received, hfirst, hlast⟩ := exists_ends hr
    rw [Policy.check, checkSwap_eq hfirst hlast]
    simp only [bind_eq_error, require_eq_error, require_eq_ok, Policy.isAllowedReceiver_iff,
      Policy.isAllowedAsset_iff]
    constructor
    · rintro (⟨hto, rfl⟩ | ⟨_, hto, ⟨hpaid, rfl⟩ | ⟨_, hpaid, hreceived, rfl⟩⟩)
      · exact .receiver hto
      · exact .paid hto hfirst hpaid
      · exact .received hto hfirst hpaid hlast hreceived
    · intro h
      cases h with
      | receiver h => exact .inl ⟨h, rfl⟩
      | paid hto hfirst' h =>
        cases hfirst.symm.trans hfirst'
        exact .inr ⟨(), hto, .inl ⟨h, rfl⟩⟩
      | received hto hfirst' hpaid hlast' h =>
        cases hfirst.symm.trans hfirst'
        cases hlast.symm.trans hlast'
        exact .inr ⟨(), hto, .inr ⟨(), hpaid, h, rfl⟩⟩
  | transfer t =>
    rw [Policy.check, Policy.checkTransfer, require_eq_error, Policy.isAllowedWithdrawDestination_iff]
    constructor
    · rintro ⟨h, rfl⟩
      exact .destination h
    · intro h
      cases h with
      | destination h => exact ⟨h, rfl⟩
  | approve a =>
    rw [Policy.check, Policy.checkApproval, require_eq_error, Policy.isAllowedApprovalDestination_iff]
    constructor
    · rintro ⟨h, rfl⟩
      exact .spender h
    · intro h
      cases h with
      | spender h => exact ⟨h, rfl⟩

/-! ## The order of the checks -/

section
variable {sender target : Address} {data : Bytes}

theorem authorize_of_governance (h : sender = p.governance) :
    p.authorize sender target data = .ok .governance :=
  if_pos (Policy.isGovernance_iff.mpr h)

theorem authorize_eq_ok (h : sender ≠ p.governance) {permission : Permission} :
    p.authorize sender target data = .ok permission ↔
      Key.sender sender ∈ p ∧ ∃ c, Makes data c ∧ Key.ofCallSite target c.function.selector ∈ p ∧ Lawful p c ∧
        permission = .call c.function := by
  rw [Policy.authorize, if_neg (mt Policy.isGovernance_iff.mp h)]
  simp only [bind_eq_ok, require_eq_ok, Policy.isAllowedSender_iff, Policy.isAllowedCallSite_iff, selector_eq_ok,
    ofSelector_eq_ok, mapError_eq_ok, decode_eq_ok]
  constructor
  · rintro ⟨_, hsender, s, -, _, hsite, f, hf, c, ⟨rfl, hmakes⟩, _, hcheck, hpermission⟩
    cases hpermission
    rw [← hf] at hsite
    exact ⟨hsender, c, hmakes, hsite, (check_eq_ok hmakes.routed).mp hcheck, rfl⟩
  · rintro ⟨hsender, c, hmakes, hsite, hlawful, rfl⟩
    obtain ⟨args, hdata, -⟩ := id hmakes
    exact ⟨(), hsender, c.function.selector, ⟨args, hdata⟩, (), hsite, c.function, rfl, c, ⟨rfl, hmakes⟩, (),
      (check_eq_ok hmakes.routed).mpr hlawful, rfl⟩

theorem authorize_eq_error (h : sender ≠ p.governance) {v : Violation} :
    p.authorize sender target data = .error v ↔ Refused p sender target data v := by
  rw [Policy.authorize, if_neg (mt Policy.isGovernance_iff.mp h)]
  simp only [bind_eq_error, require_eq_ok, require_eq_error, Policy.isAllowedSender_iff, Policy.isAllowedCallSite_iff,
    selector_eq_ok, selector_eq_error, ofSelector_eq_ok, ofSelector_eq_error, mapError_eq_ok, mapError_eq_error,
    decode_eq_ok, decode_eq_error]
  -- One case for each check, in the order in which they are made.
  constructor
  · rintro (⟨hsender, rfl⟩ | ⟨_, hsender, ⟨hshort, rfl⟩ | ⟨s, ⟨args, hdata⟩, ⟨hsite, rfl⟩ | ⟨_, hsite,
      ⟨hunknown, rfl⟩ | ⟨f, rfl, ⟨_, ⟨fault, hfault, rfl⟩ | ⟨c, hc, hempty, rfl⟩, rfl⟩ |
        ⟨c, ⟨rfl, hmakes⟩, hcheck | ⟨_, -, hpure⟩⟩⟩⟩⟩⟩)
    · exact .sender hsender
    · exact .noSelector hsender hshort
    · exact .callSite hsender hdata hsite
    · exact .selector hsender hdata hsite hunknown
    · exact .arguments hsender hdata hsite (not_shaped_of_error (hdata ▸ hfault)) hfault
    · obtain ⟨rfl, hfits, hcount⟩ := decodeArguments_emptyPath.mp ⟨c, hdata ▸ hc, hempty⟩
      exact .route hsender hdata hsite hfits hcount
    · exact .flow hsender hmakes hsite ((check_eq_error hmakes.routed).mp hcheck)
    · cases hpure
  · intro hrefused
    cases hrefused with
    | sender hsender => exact .inl ⟨hsender, rfl⟩
    | noSelector hsender hshort => exact .inr ⟨(), hsender, .inl ⟨hshort, rfl⟩⟩
    | @callSite s args hsender hdata hsite => exact .inr ⟨(), hsender, .inr ⟨s, ⟨args, hdata⟩, .inl ⟨hsite, rfl⟩⟩⟩
    | @selector s args hsender hdata hsite hunknown =>
      exact .inr ⟨(), hsender, .inr ⟨s, ⟨args, hdata⟩, .inr ⟨(), hsite, .inl ⟨hunknown, rfl⟩⟩⟩⟩
    | @arguments f args fault hsender hdata hsite _ hfault =>
      exact .inr ⟨(), hsender, .inr ⟨f.selector, ⟨args, hdata⟩,
        .inr ⟨(), hsite, .inr ⟨f, rfl, .inl ⟨_, .inl ⟨fault, hfault, rfl⟩, rfl⟩⟩⟩⟩⟩
    | @route args hsender hdata hsite hfits hcount =>
      obtain ⟨c, hc, hempty⟩ := decodeArguments_emptyPath.mpr ⟨rfl, hfits, hcount⟩
      exact .inr ⟨(), hsender, .inr ⟨Function.swap.selector, ⟨args, hdata⟩,
        .inr ⟨(), hsite, .inr ⟨.swap, rfl, .inl ⟨_, .inr ⟨c, hdata ▸ hc, hempty, rfl⟩, rfl⟩⟩⟩⟩⟩
    | @flow c v hsender hmakes hsite hflow =>
      obtain ⟨args, hdata, -⟩ := id hmakes
      exact .inr ⟨(), hsender, .inr ⟨c.function.selector, ⟨args, hdata⟩, .inr ⟨(), hsite,
        .inr ⟨c.function, rfl, .inr ⟨c, ⟨rfl, hmakes⟩, .inl ((check_eq_error hmakes.routed).mpr hflow)⟩⟩⟩⟩⟩

end

end

/-- The decision on a call. Governance may do anything. Another sender is let through for a function exactly if it is a
    sender of the policy, the payload is a call of that function at an allowed call site, laid out as its arguments are,
    and value flows where it may; otherwise it is refused for the first of these conditions that is not met. -/
theorem authorize_iff (p : Policy) (sender target : Address) (data : Bytes) :
    (p.authorize sender target data = .ok .governance ↔ sender = p.governance) ∧
    (∀ f, p.authorize sender target data = .ok (.call f) ↔
      sender ≠ p.governance ∧ Key.sender sender ∈ p ∧
        ∃ args, data = f.selector.bytes ++ args ∧ Key.ofCallSite target f.selector ∈ p ∧ Fits f args ∧
          ∃ c, c.function = f ∧ Holds args c ∧ Lawful p c) ∧
    ∀ v, p.authorize sender target data = .error v ↔
      sender ≠ p.governance ∧ Refused p sender target data v := by
  by_cases h : sender = p.governance
  · rw [authorize_of_governance h]
    simp [h]
  · refine ⟨?_, fun f => ?_, fun v => ?_⟩
    · rw [authorize_eq_ok h]
      constructor
      · rintro ⟨-, c, -, -, -, hpermission⟩
        cases hpermission
      · exact fun hsender => absurd hsender h
    · rw [authorize_eq_ok h]
      constructor
      · rintro ⟨hsender, c, ⟨args, hdata, hfits, hholds⟩, hsite, hlawful, hpermission⟩
        cases hpermission
        exact ⟨h, hsender, args, hdata, hsite, hfits, c, rfl, hholds, hlawful⟩
      · rintro ⟨-, hsender, args, hdata, hsite, hfits, c, rfl, hholds, hlawful⟩
        exact ⟨hsender, c, ⟨args, hdata, hfits, hholds⟩, hsite, hlawful, rfl⟩
    · rw [authorize_eq_error h]
      exact ⟨fun hrefused => ⟨h, hrefused⟩, And.right⟩

end CallGuard.Decision
