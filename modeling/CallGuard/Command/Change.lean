import CallGuard.Command.Store
import CallGuard.Command.Texts

/-! # Changing the stored policy

The commands that write the policy file: `init` makes it from the settings, `admin` changes it. -/

namespace CallGuard

namespace Command

/-- Reads the clock ahead, once for each event that is to be recorded. -/
def readClock : (events : Nat) → Command Clock
  | 0 => return .epoch
  | events + 1 => do
    let time ← ask .now
    return .cons time (← readClock events)

/-- Makes the policy file from the settings. Without force, a file that is there is replaced only if that is
    confirmed. -/
def init (settings : Settings) (force : Bool) : Command Unit := do
  let path := settings.policyFile
  let present ← ofExcept .policyNotFollowed (← ask (.isPresent path))
  if present && !force then
    if !(← confirm (path ++ " already exists. Overwrite it?")) then return
  let guard ← ofExcept .settings (settings.bootstrapGuard (← readClock settings.bootstrap.size))
  persist settings guard
  printLine ("\nPolicy initialised: " ++ path)
  printLine ("Governance: " ++ guard.owner.checksum)
  printLine ("Call sites: " ++ toString guard.policy.callSites.length)

/-- An event as it is printed. -/
def eventLine (e : Event) : String :=
  e.name ++ " " ++ e.key.display ++ " " ++ quotedText e.note

/-- Asks whether an entry is to be removed, unless that is forced; other changes need no confirmation. -/
def confirmRemoval (op : Operation) (force : Bool) : Command Bool :=
  match op with
  | .remove key =>
    if force then pure true
    else confirm ("Remove " ++ key.kind.name ++ " " ++ key.display ++ " from the policy?")
  | _ => pure true

/-- Changes the policy in the name of a caller. -/
def admin (settings : Settings) (caller : String) (change : ChangeText) (note : String) (force : Bool) :
    Command Unit := do
  let caller ← ofExcept id (readAddress "caller" caller)
  let guard ← load settings.policyFile
  let op ← ofExcept id change.read
  if ← confirmRemoval op force then
    let (result, guard) := (Guard.perform caller op note (← readClock op.steps.length)).run guard
    ofExcept .violation result
    guard.events.forM fun e => printLine (eventLine e)
    persist settings guard

end Command

end CallGuard
