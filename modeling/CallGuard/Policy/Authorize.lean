import CallGuard.Policy
import CallGuard.Violation

/-! # Authorization

Whether a policy lets a sender forward a payload to a contract. Governance may do anything. Otherwise the sender, the
call site, the function and where value flows are looked at in this order, and the first that is not allowed is the
reason for the rejection. Amounts and deadlines are never looked at. -/

namespace CallGuard

/-- Why a call may be forwarded. -/
inductive Permission where
  /-- The sender is the governance identity. -/
  | governance
  /-- The policy allows the call of this function. -/
  | call (f : Function)
  deriving DecidableEq

namespace Policy

/-- Rejects for the given reason what is not allowed. -/
def require (allowed : Bool) (reason : Violation) : Except Violation Unit :=
  if allowed then .ok () else .error reason

/-- A swap pays to a sender and begins and ends with an asset; the tokens between do not matter. -/
def checkSwap (p : Policy) (args : Swap) : Except Violation Unit := do
  require (p.isAllowedReceiver args.recipient) (.receiverNotAllowed args.recipient)
  match args.path.head?, args.path.getLast? with
  | some paid, some received =>
    require (p.isAllowedAsset paid) (.assetNotAllowed paid)
    require (p.isAllowedAsset received) (.assetNotAllowed received)
  | _, _ => throw (.malformedCallData .emptyPath)

/-- A transfer pays to a withdraw destination. -/
def checkTransfer (p : Policy) (args : Transfer) : Except Violation Unit :=
  require (p.isAllowedWithdrawDestination args.recipient) (.withdrawDestinationNotAllowed args.recipient)

/-- An approval is for an approval destination. -/
def checkApproval (p : Policy) (args : Approval) : Except Violation Unit :=
  require (p.isAllowedApprovalDestination args.spender) (.approvalDestinationNotAllowed args.spender)

/-- Where a call lets value flow is allowed. -/
def check (p : Policy) : Call → Except Violation Unit
  | .swap args => p.checkSwap args
  | .transfer args => p.checkTransfer args
  | .approve args => p.checkApproval args

/-- Decides whether `sender` may forward `data` to `target`. -/
def authorize (p : Policy) (sender target : Address) (data : Bytes) : Except Violation Permission :=
  if p.isGovernance sender then .ok .governance
  else do
    require (p.isAllowedSender sender) (.senderNotAllowed sender)
    let selector ← Payload.selector data
    require (p.isAllowedCallSite target selector) (.callSiteNotAllowed target selector)
    let f ← Function.ofSelector selector
    let c ← (Call.decode f data).mapError .malformedCallData
    p.check c
    return .call f

end Policy

end CallGuard
