import CallGuard.Audit.EventJson
import CallGuard.Failure
import CallGuard.Script

/-! # Stored guards

How commands load a guard from the policy file and put it back: first the recorded events are put behind those in the
audit trail, and only then the policy is written, so no change is stored without its record. -/

namespace CallGuard

/-- A script that may fail; what it did before stays done. -/
abbrev Command := ExceptT Failure Script

namespace Command

/-- Makes one request. -/
def ask (r : Request) : Command r.Answer := ExceptT.lift (Script.request r)

/-- Prints a line. -/
def printLine (text : String) : Command Unit := ExceptT.lift (Script.printLine text)

/-- Goes on with a value, or fails. -/
def ofExcept {ε α : Type} (failure : ε → Failure) (result : Except ε α) : Command α :=
  match result with
  | .ok a => pure a
  | .error e => throw (failure e)

/-- Loads the guard of a policy file. -/
def load (path : String) : Command Guard := do
  if !(← ofExcept .policyNotRead (← ask (.isPresent path))) then throw (.policyNotFound path)
  let text ← ofExcept .policyNotRead (← ask (.read path))
  ofExcept .badSnapshot (Guard.restore text)

/-- Puts events behind those of an audit trail; without events nothing is done. -/
def appendEvents (path : String) (events : List Event) : Command Unit := do
  if events.isEmpty then return
  ofExcept (.trailNotAppended path events.length) (← ask (.append path (Event.linesOf events)))

/-- Writes a policy file, and makes the folders it is in. -/
def save (path : String) (guard : Guard) : Command Unit := do
  ofExcept (.policyNotSaved path) (← ask (.makeParents path))
  ofExcept (.policyNotSaved path) (← ask (.write path guard.snapshot.text))

/-- Takes the events of a guard into the audit trail, then writes the policy file. -/
def persist (settings : Settings) (guard : Guard) : Command Unit := do
  let (events, guard) := Guard.takeEvents.run guard
  appendEvents settings.auditLog events
  save settings.policyFile guard

/-- Asks for a confirmation. -/
def confirm (prompt : String) : Command Bool := do
  match ← ask (.confirm prompt) with
  | some yes => return yes
  | none => throw .noTerminal

end Command

end CallGuard
