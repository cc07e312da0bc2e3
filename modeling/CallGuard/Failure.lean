import CallGuard.Disk
import CallGuard.Settings
import CallGuard.Snapshot

/-! # Failures

Why a command does not do what it was asked for. A failure is worded as a chain of causes, the outermost first; what
went wrong within the guard itself gives it its kind. -/

namespace CallGuard

/-- Why a command fails. -/
inductive Failure where
  /-- The guard rejects what is asked for. -/
  | violation (v : Violation)
  /-- The payload to check is not hexadecimal. -/
  | badPayload (fault : Hex.Fault)
  /-- An address is none. -/
  | badAddress (what text : String) (fault : Hex.Fault)
  /-- An amount is none. -/
  | badAmount (what text : String) (fault : Amount.Fault)
  /-- A selector is none. -/
  | badSelector (text : String) (fault : Hex.Fault)
  /-- A call site is named without a selector. -/
  | selectorMissing
  /-- A selector is given for a list that has none. -/
  | selectorUnused (kind : ListKind)
  /-- The settings cannot be used. -/
  | settings (fault : SettingsFault)
  /-- There is no policy file. -/
  | policyNotFound (path : String)
  /-- The policy file is no snapshot of a guard. -/
  | badSnapshot (fault : SnapshotFault)
  /-- The policy file cannot be read. -/
  | policyNotRead (fault : OsFault)
  /-- It cannot be told whether there is a policy file. -/
  | policyNotFollowed (fault : OsFault)
  /-- The audit trail cannot be written, so nothing was. -/
  | trailNotAppended (path : String) (events : Nat) (fault : OsFault)
  /-- The policy cannot be written, though its changes are recorded. -/
  | policyNotSaved (path : String) (fault : OsFault)
  /-- Nobody can be asked. -/
  | noTerminal
  deriving DecidableEq

namespace Failure

/-- The wording of a failure of the operating system within the guard. -/
def ofFile (fault : OsFault) : String := "I/O error: " ++ fault.message

/-- The wording of a failure with its causes, outermost first. -/
def chain : Failure → List String
  | .violation v => [v.message]
  | .badPayload fault => ["Invalid call data", "Invalid hex data: " ++ fault.message]
  | .badAddress what text fault => ["Invalid " ++ what ++ " address: " ++ text, fault.message]
  | .badAmount what text fault => ("Invalid " ++ what ++ ": " ++ text) :: fault.chain
  | .badSelector text fault => ["Invalid selector: " ++ text, fault.message]
  | .selectorMissing => ["call-site entries need --selector"]
  | .selectorUnused kind => ["--selector only applies to call sites, not " ++ kind.name]
  | .settings fault => fault.chain
  | .policyNotFound path => ["Policy file not found: " ++ path]
  | .badSnapshot .malformed => ["Serialization error"]
  | .badSnapshot (.unsupportedVersion version) => ["Unsupported policy snapshot version: " ++ version]
  | .policyNotRead fault => [ofFile fault]
  | .policyNotFollowed fault => [fault.message]
  | .trailNotAppended path events fault =>
    ["Failed to append audit log " ++ path ++ "; " ++ toString events ++
      " policy event(s) not recorded, policy not saved", ofFile fault]
  | .policyNotSaved path fault => ["Failed to save policy " ++ path, ofFile fault]
  | .noTerminal => ["IO error: not a terminal", "not a terminal"]

/-- The outermost wording of a failure. -/
def message (f : Failure) : String := f.chain.headD ""

/-- The wording of a failure and its causes in one line. -/
def fullMessage (f : Failure) : String := String.intercalate ": " f.chain

/-- The name of the kind of a failure. -/
def kind : Failure → String
  | .violation v => v.kind
  | .badPayload _ => "InvalidHex"
  | .policyNotFound _ => "PolicyNotFound"
  | .badSnapshot .malformed => "Serialization"
  | .badSnapshot (.unsupportedVersion _) => "UnsupportedSnapshotVersion"
  | .policyNotRead _ => "Io"
  | .trailNotAppended _ _ _ => "Io"
  | .policyNotSaved _ _ => "Io"
  | _ => "Other"

end Failure

end CallGuard
