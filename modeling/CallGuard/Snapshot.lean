import CallGuard.Guard
import CallGuard.Json.Parse
import CallGuard.Json.Print
import CallGuard.Policy.KeyJson

/-! # Snapshots

A policy is stored as a snapshot: a version, the governance identity and the five lists. A snapshot holds no events, and
its lists may have any order and repetitions; the snapshot taken of a guard has them in byte order. -/

namespace CallGuard

/-- A stored policy. -/
structure Snapshot where
  version : String
  governance : Address
  callSites : List CallSite
  assets : List Address
  senders : List Address
  withdrawDestinations : List Address
  approvalDestinations : List Address
  deriving DecidableEq

/-- Why a text is not the snapshot of a guard. -/
inductive SnapshotFault where
  /-- The text is not a stored snapshot. -/
  | malformed
  /-- The snapshot has another version than the current one. -/
  | unsupportedVersion (version : String)
  deriving DecidableEq

/-- A call site as a stored record. -/
def CallSite.toJson (site : CallSite) : Json :=
  .ofFields [("target", site.target.toJson), ("selector", site.selector.toJson)]

/-- The call site that a value stores. -/
def CallSite.ofJson? (v : Json) : Option CallSite := do
  let fields ← v.fields? ["target", "selector"]
  return ⟨← fields.required "target" (Octets.ofJson? 20), ← fields.required "selector" (Octets.ofJson? 4)⟩

namespace Snapshot

/-- The version of the snapshots that are taken and understood. -/
def currentVersion : String := "1.0"

/-- Every entry, list by list. -/
def keys (s : Snapshot) : List Key :=
  s.callSites.map .callSite ++ s.assets.map .asset ++ s.senders.map .sender ++
    s.withdrawDestinations.map .withdrawDestination ++ s.approvalDestinations.map .approvalDestination

/-- The snapshot of a policy. -/
def ofPolicy (p : Policy) : Snapshot :=
  ⟨currentVersion, p.governance, p.callSites, p.assets, p.senders, p.withdrawDestinations, p.approvalDestinations⟩

/-- The policy that a snapshot stores, whatever its version. -/
def policy (s : Snapshot) : Policy :=
  ⟨s.governance, .ofList s.keys⟩

/-- A snapshot as a stored record. -/
def toJson (s : Snapshot) : Json :=
  let addresses (list : List Address) : Json := .array (list.map Octets.toJson)
  .ofFields [("version", .ofText s.version), ("governance", s.governance.toJson),
    ("call_sites", .array (s.callSites.map CallSite.toJson)), ("assets", addresses s.assets),
    ("senders", addresses s.senders), ("withdraw_destinations", addresses s.withdrawDestinations),
    ("approval_destinations", addresses s.approvalDestinations)]

/-- The snapshot that a value stores. All but the governance identity may be missing: the version is then the current
    one, and lists are empty. -/
def ofJson? (v : Json) : Option Snapshot := do
  let fields ← v.fields? ["version", "governance", "call_sites", "assets", "senders", "withdraw_destinations",
    "approval_destinations"]
  let addresses (name : String) : Option (List Address) :=
    fields.optional name [] (Json.list? (Octets.ofJson? 20))
  return {
    version := ← fields.optional "version" currentVersion Json.text?
    governance := ← fields.required "governance" (Octets.ofJson? 20)
    callSites := ← fields.optional "call_sites" [] (Json.list? CallSite.ofJson?)
    assets := ← addresses "assets"
    senders := ← addresses "senders"
    withdrawDestinations := ← addresses "withdraw_destinations"
    approvalDestinations := ← addresses "approval_destinations" }

/-- A snapshot as text, without an end of line behind it. -/
def text (s : Snapshot) : String := s.toJson.prettyText

/-- The snapshot that a text stores. -/
def read (text : String) : Except SnapshotFault Snapshot :=
  match Json.parse? text >>= ofJson? with
  | some s => .ok s
  | none => .error .malformed

end Snapshot

namespace Guard

/-- The snapshot of the policy of a guard. -/
def snapshot (g : Guard) : Snapshot := .ofPolicy g.policy

/-- The guard of the policy that a snapshot stores, with nothing recorded. -/
def ofSnapshot (s : Snapshot) : Except SnapshotFault Guard :=
  if s.version = Snapshot.currentVersion then .ok (.ofPolicy s.policy) else .error (.unsupportedVersion s.version)

/-- The guard of the policy that a text stores. -/
def restore (text : String) : Except SnapshotFault Guard := do
  ofSnapshot (← Snapshot.read text)

end Guard

end CallGuard
