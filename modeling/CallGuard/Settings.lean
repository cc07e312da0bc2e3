import CallGuard.Guard
import CallGuard.Text.Blank

/-! # Settings

What an operator sets: the governance identity, the files of the policy and its audit trail, the policy to begin with,
and how to log. Addresses are kept as they were written; the policy to begin with is built from them when it is asked
for, and checking the settings tells beforehand whether it can be. -/

namespace CallGuard

/-- The entries of the policy to begin with, as they were written. -/
structure Bootstrap where
  /-- Wallets that may call. -/
  senders : List String := []
  /-- Addresses to which transfers may pay. -/
  withdrawDestinations : List String := []
  /-- Tokens that swaps may begin and end with. -/
  assets : List String := []
  /-- Tokens to be whitelisted. -/
  tokens : List String := []
  /-- Routers to be whitelisted. -/
  routers : List String := []
  deriving DecidableEq

/-- What an operator sets. -/
structure Settings where
  /-- The governance identity, as it was written. -/
  governance : String := ""
  /-- The file of the policy. -/
  policyFile : String := "policy.json"
  /-- The file of the audit trail. -/
  auditLog : String := "audit.jsonl"
  /-- The policy to begin with. -/
  bootstrap : Bootstrap := {}
  /-- How much to log. -/
  logLevel : String := "info"
  /-- Whether to log in JSON. -/
  logJson : Bool := false
  deriving DecidableEq

/-- Why settings cannot be used. -/
inductive SettingsFault where
  /-- A source cannot be read. -/
  | notBuilt
  /-- A setting is missing or of another type than it must be. -/
  | notRead
  /-- No governance identity is set. -/
  | noGovernance
  /-- The governance identity is no address. -/
  | badGovernance (text : String) (fault : Hex.Fault)
  /-- The name of the policy file is blank. -/
  | noPolicyFile
  /-- An address of the policy to begin with is none. -/
  | badAddress (text : String) (fault : Hex.Fault)
  /-- An address of the policy to begin with is none, and stands in the list of this name. -/
  | badList (name text : String) (fault : Hex.Fault)
  deriving DecidableEq

/-- The wording of a fault with its causes, outermost first. -/
def SettingsFault.chain : SettingsFault → List String
  | .notBuilt => ["Failed to build configuration"]
  | .notRead => ["Failed to deserialize configuration"]
  | .noGovernance => ["guard.governance must be set"]
  | .badGovernance text fault => ["Invalid guard.governance: " ++ text, fault.message]
  | .noPolicyFile => ["guard.policy_file cannot be empty"]
  | .badAddress text fault => ["Invalid address: " ++ text, fault.message]
  | .badList name text fault => ["Invalid bootstrap." ++ name, "Invalid address: " ++ text, fault.message]

namespace Bootstrap

/-- The lists with their names, in the order in which they are checked and applied. -/
def lists (b : Bootstrap) : List (String × List String) :=
  [("senders", b.senders), ("withdraw_destinations", b.withdrawDestinations), ("assets", b.assets),
    ("tokens", b.tokens), ("routers", b.routers)]

/-- The addresses of a list. -/
def addresses (list : List String) : Except SettingsFault (List Address) :=
  list.mapM fun text => (Address.read text).mapError (.badAddress text)

/-- What is asked of a guard to begin with. -/
def operations (b : Bootstrap) : Except SettingsFault (List Operation) := do
  let senders ← addresses b.senders
  let withdrawDestinations ← addresses b.withdrawDestinations
  let assets ← addresses b.assets
  let tokens ← addresses b.tokens
  let routers ← addresses b.routers
  return senders.map .allowSender ++ withdrawDestinations.map .allowWithdrawDestination ++
    assets.map .allowAsset ++ tokens.map .whitelistToken ++ routers.map .whitelistRouter

/-- How many entries are allowed to begin with, those that are listed several times counted as often. -/
def size (b : Bootstrap) : Nat :=
  b.senders.length + b.withdrawDestinations.length + b.assets.length + 2 * b.tokens.length + 2 * b.routers.length

end Bootstrap

namespace Settings

/-- The note of every event of the policy to begin with. -/
def bootstrapNote : String := "bootstrap"

/-- The governance identity. -/
def readGovernance (s : Settings) : Except SettingsFault Address :=
  (Address.read s.governance).mapError (.badGovernance s.governance)

/-- Checks that the settings can be used. -/
def validate (s : Settings) : Except SettingsFault Unit := do
  if trim s.governance.toList = [] then throw .noGovernance
  let _ ← s.readGovernance
  if trim s.policyFile.toList = [] then throw .noPolicyFile
  s.bootstrap.lists.forM fun (name, list) =>
    list.forM fun text => do
      let _ ← (Address.read text).mapError (.badList name text)

/-- The guard to begin with: governance makes what is asked for, so nothing of it is rejected. -/
def bootstrapGuard (s : Settings) (clock : Clock) : Except SettingsFault Guard := do
  let governance ← s.readGovernance
  let operations ← s.bootstrap.operations
  return ((Guard.performAll governance bootstrapNote operations clock).run (.new governance)).2

/-- The settings as they are shown: lists only by their lengths. -/
def display (s : Settings) : String :=
  let count (list : List String) : String := toString list.length
  "Configuration:\n" ++
  "  Guard:\n" ++
  "    governance: " ++ s.governance ++ "\n" ++
  "    policy_file: " ++ s.policyFile ++ "\n" ++
  "    audit_log: " ++ s.auditLog ++ "\n" ++
  "  Bootstrap:\n" ++
  "    senders: " ++ count s.bootstrap.senders ++ "\n" ++
  "    withdraw_destinations: " ++ count s.bootstrap.withdrawDestinations ++ "\n" ++
  "    assets: " ++ count s.bootstrap.assets ++ "\n" ++
  "    tokens: " ++ count s.bootstrap.tokens ++ "\n" ++
  "    routers: " ++ count s.bootstrap.routers ++ "\n" ++
  "  Logging:\n" ++
  "    level: " ++ s.logLevel ++ "\n" ++
  "    json: " ++ (if s.logJson then "true" else "false") ++ "\n"

end Settings

end CallGuard
