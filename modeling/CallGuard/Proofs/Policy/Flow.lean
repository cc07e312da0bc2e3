import CallGuard.Guard
import CallGuard.Proofs.Policy.Needs

/-! # Where value flows

A decision looks at a call for its function and for where value flows, and at nothing else: not at amounts or deadlines,
not at the tokens between the ends of a route, and not at what stands behind the arguments. So calls of one flow are
decided alike (`authorize_of_sameFlow`). -/

namespace CallGuard.Decision
open Layout Outcome

/-- Two calls of one function let value flow alike: swaps pay to one receiver and begin and end with the same tokens,
    transfers pay to one destination, and approvals are for one spender. -/
inductive SameFlow : Call → Call → Prop
  | swap {c d : Swap} (recipient : c.recipient = d.recipient) (paid : c.path.head? = d.path.head?)
      (received : c.path.getLast? = d.path.getLast?) : SameFlow (.swap c) (.swap d)
  | transfer {c d : Transfer} (recipient : c.recipient = d.recipient) : SameFlow (.transfer c) (.transfer d)
  | approve {c d : Approval} (spender : c.spender = d.spender) : SameFlow (.approve c) (.approve d)

/-- What a decision looks at in a call. -/
def relevantPart (c : Call) : Function × List Need :=
  (c.function, flowNeeds c)

namespace SameFlow
variable {c d : Call}

theorem function_eq (h : SameFlow c d) : c.function = d.function := by
  cases h <;> rfl

theorem flowNeeds_eq (h : SameFlow c d) : flowNeeds c = flowNeeds d := by
  cases h with
  | swap hto hpaid hreceived => rw [flowNeeds, flowNeeds, hto, hpaid, hreceived]
  | transfer hto => rw [flowNeeds, flowNeeds, hto]
  | approve hspender => rw [flowNeeds, flowNeeds, hspender]

theorem routed_iff (h : SameFlow c d) : Routed c ↔ Routed d := by
  cases h with
  | swap _ hpaid _ =>
    refine not_congr ?_
    rw [← List.head?_eq_none_iff, hpaid, List.head?_eq_none_iff]
  | transfer _ => exact Iff.rfl
  | approve _ => exact Iff.rfl

/-- Payloads of calls that let value flow alike are parsed alike, as far as a decision looks at them. -/
theorem ofPayload_eq (h : SameFlow c d) (hc : Addressable c) (hd : Addressable d) (rest rest' : Bytes) :
    (Call.ofPayload (c.encode ++ rest)).map relevantPart = (Call.ofPayload (d.encode ++ rest')).map relevantPart := by
  by_cases hr : Routed c
  · have hr' := h.routed_iff.mp hr
    rw [ofPayload_eq_ok.mpr (makes_encode hc hr rest), ofPayload_eq_ok.mpr (makes_encode hd hr' rest')]
    show Except.ok (relevantPart c) = .ok (relevantPart d)
    rw [relevantPart, relevantPart, h.function_eq, h.flowNeeds_eq]
  · have hr' := mt h.routed_iff.mpr hr
    rw [ofPayload_encode_of_not_routed hc hr, ofPayload_encode_of_not_routed hd hr']

end SameFlow

section
variable {p : Policy} {sender target : Address} {data data' args args' : Bytes} {s : Selector}

theorem verdict_eq (data : Bytes) :
    verdict data = ((Call.ofPayload data).map relevantPart).map fun part => .call part.1 := by
  rw [verdict]
  cases Call.ofPayload data <;> rfl

theorem needs_eq (hdata : data = s.bytes ++ args) :
    needs sender target data =
      ⟨.sender sender, .senderNotAllowed sender⟩ :: ⟨.ofCallSite target s, .callSiteNotAllowed target s⟩ ::
        ((Call.ofPayload data).map relevantPart).toOption.elim [] Prod.snd := by
  rw [needs, payloadNeeds, Payload.split?_eq_some.mpr hdata]
  cases Call.ofPayload data <;> rfl

/-- Of a payload a decision looks at the selector and at the relevant part of its call. -/
theorem authorize_congr (hdata : data = s.bytes ++ args) (hdata' : data' = s.bytes ++ args')
    (h : (Call.ofPayload data).map relevantPart = (Call.ofPayload data').map relevantPart) :
    p.authorize sender target data = p.authorize sender target data' := by
  by_cases hsender : sender = p.governance
  · rw [authorize_of_governance hsender, authorize_of_governance hsender]
  · rw [authorize_eq_settle hsender, authorize_eq_settle hsender, verdict_eq, verdict_eq, needs_eq hdata, needs_eq hdata',
      h]

end

/-- Only where value flows matters, not how much or through what. Calls that let value flow alike are decided alike,
    with the same violation where they are refused, whatever their amounts and deadlines are, whichever tokens and how
    many of them stand between the ends of a route, and whatever follows the arguments. -/
theorem authorize_of_sameFlow (g : Guard) (sender target : Address) {c d : Call} (h : SameFlow c d)
    (hc : Addressable c) (hd : Addressable d) (rest rest' : Bytes) :
    g.authorize sender target (c.encode ++ rest) = g.authorize sender target (d.encode ++ rest') := by
  have hdata := encode_append c rest
  rw [h.function_eq] at hdata
  exact authorize_congr hdata (encode_append d rest') (h.ofPayload_eq hc hd rest rest')

/-- A swap along two tokens, and one of other amounts along three more, at a guard that lets neither token be paid. -/
theorem authorize_of_sameFlow_longer_route :
    let wallet : Address := .ofNat 20 2
    let router : Address := .ofNat 20 3
    let c : Call := .swap ⟨1, 2, [.ofNat 20 10, .ofNat 20 11], wallet, 9999⟩
    let d : Call := .swap ⟨500, 700, [.ofNat 20 10, .ofNat 20 11, .ofNat 20 12, .ofNat 20 10, .ofNat 20 11], wallet, 0⟩
    let g := Guard.ofPolicy (((Policy.empty (.ofNat 20 1)).allow (.sender wallet)).allow
      (.ofCallSite router Function.swap.selector))
    SameFlow c d ∧ Addressable c ∧ Addressable d ∧
      g.authorize wallet router (c.encode ++ [7]) = g.authorize wallet router (d.encode ++ [8, 9]) := by
  intro wallet router c d g
  have hflow : SameFlow c d := .swap rfl rfl rfl
  have hc : Addressable c := by decide
  have hd : Addressable d := by decide
  exact ⟨hflow, hc, hd, authorize_of_sameFlow g wallet router hflow hc hd [7] [8, 9]⟩

end CallGuard.Decision
