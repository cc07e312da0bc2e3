import CallGuard.Call.Codec

/-! # Violations

The reasons for which the guard rejects a call or a change of its policy. Each names what was not allowed. -/

namespace CallGuard

/-- Why a call or a change of policy is rejected. -/
inductive Violation where
  /-- The caller may not change the policy. -/
  | unauthorized (caller : Address)
  | senderNotAllowed (sender : Address)
  | callSiteNotAllowed (target : Address) (selector : Selector)
  | receiverNotAllowed (receiver : Address)
  | assetNotAllowed (token : Address)
  | withdrawDestinationNotAllowed (destination : Address)
  | approvalDestinationNotAllowed (spender : Address)
  | unknownSelector (selector : Selector)
  | malformedCallData (reason : Malformed)
  deriving DecidableEq

namespace Violation

/-- The name of the kind of a violation. -/
def kind : Violation → String
  | .unauthorized _ => "Unauthorized"
  | .senderNotAllowed _ => "SenderNotAllowed"
  | .callSiteNotAllowed _ _ => "CallSiteNotAllowed"
  | .receiverNotAllowed _ => "ReceiverNotAllowed"
  | .assetNotAllowed _ => "AssetNotAllowed"
  | .withdrawDestinationNotAllowed _ => "WithdrawDestinationNotAllowed"
  | .approvalDestinationNotAllowed _ => "ApprovalDestinationNotAllowed"
  | .unknownSelector _ => "UnknownSelector"
  | .malformedCallData _ => "MalformedCallData"

/-- The wording of a violation. -/
def message : Violation → String
  | .unauthorized caller => "Caller " ++ caller.checksum ++ " is not the governance identity"
  | .senderNotAllowed sender => "Sender " ++ sender.checksum ++ " is not allowed"
  | .callSiteNotAllowed target selector =>
    "Call site " ++ target.checksum ++ " " ++ selector.toHex ++ " is not allowed"
  | .receiverNotAllowed receiver => "Receiver " ++ receiver.checksum ++ " is not allowed"
  | .assetNotAllowed token => "Asset " ++ token.checksum ++ " is not allowed"
  | .withdrawDestinationNotAllowed destination =>
    "Withdraw destination " ++ destination.checksum ++ " is not allowed"
  | .approvalDestinationNotAllowed spender => "Approval destination " ++ spender.checksum ++ " is not allowed"
  | .unknownSelector selector => "Unknown function selector " ++ selector.toHex
  | .malformedCallData reason => "Malformed call data: " ++ reason.message

/-- Whether a violation rejects a change of the policy and not a call. -/
def concernsPolicy : Violation → Bool
  | .unauthorized _ => true
  | _ => false

end Violation

/-- The selector of a payload. -/
def Payload.selector (data : Bytes) : Except Violation Selector :=
  match Payload.split? data with
  | some (s, _) => .ok s
  | none => .error (.malformedCallData (.noSelector data.length))

/-- The function that a selector names. -/
def Function.ofSelector (s : Selector) : Except Violation Function :=
  match Function.ofSelector? s with
  | some f => .ok f
  | none => .error (.unknownSelector s)

/-- The call that a payload makes, of the function that its selector names. -/
def Call.ofPayload (data : Bytes) : Except Violation Call := do
  let f ← Function.ofSelector (← Payload.selector data)
  (Call.decode f data).mapError .malformedCallData

end CallGuard
