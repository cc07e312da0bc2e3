import CallGuard.Command.Store
import CallGuard.Command.Texts

/-! # Looking without changing

The commands that only print: whether a call is allowed, the stored policy, the guarded functions, the payload of a
call, and the settings. -/

namespace CallGuard

namespace Command

/-- The line that tells what a guard decides. -/
def decisionLine : Except Violation Permission → String
  | .ok .governance => "ALLOWED (governance bypass)"
  | .ok (.call f) => "ALLOWED (" ++ f.name ++ ")"
  | .error v => "DENIED " ++ v.kind ++ ": " ++ v.message

/-- Prints whether the stored policy allows a call, and tells it. -/
def check (settings : Settings) (sender target data : String) : Command Bool := do
  let sender ← ofExcept id (readAddress "sender" sender)
  let target ← ofExcept id (readAddress "target" target)
  let data ← ofExcept id (readPayload data)
  let guard ← load settings.policyFile
  let decision := guard.authorize sender target data
  printLine (decisionLine decision)
  return decision matches .ok _

/-- Prints a list of addresses under its title. -/
def showList (title : String) (addresses : List Address) : Command Unit := do
  printLine ("\n" ++ title ++ " (" ++ toString addresses.length ++ "):")
  if addresses.isEmpty then printLine "  (none)"
  addresses.forM fun a => printLine ("  " ++ a.checksum)

/-- Prints the stored policy. -/
def showPolicy (settings : Settings) : Command Unit := do
  let guard ← load settings.policyFile
  let p := guard.policy
  printLine "\n=== GUARD POLICY ===\n"
  printLine ("Governance: " ++ p.governance.checksum)
  printLine ("\nCall sites (" ++ toString p.callSites.length ++ "):")
  p.callSites.forM fun site => do
    let name := ((Function.ofSelector? site.selector).map Function.name).getD "unknown"
    printLine ("  " ++ site.target.checksum ++ " " ++ site.selector.toHex ++ " (" ++ name ++ ")")
  showList "Senders / receivers" p.senders
  showList "Assets" p.assets
  showList "Withdraw destinations" p.withdrawDestinations
  showList "Approval destinations" p.approvalDestinations

/-- Prints the guarded functions. -/
def showFunctions : Command Unit := do
  printLine "\n=== KNOWN SELECTORS ===\n"
  Function.all.forM fun f => printLine ("  " ++ f.selector.toHex ++ "  " ++ f.signature)

/-- Prints the payload of a call, and tells it. -/
def encode (call : CallText) : Command String := do
  let c ← ofExcept id call.read
  let text := String.ofList (Hex.encodeMarked c.encode)
  printLine text
  return text

/-- Prints the settings. -/
def showSettings (settings : Settings) : Command Unit :=
  printLine settings.display

end Command

end CallGuard
