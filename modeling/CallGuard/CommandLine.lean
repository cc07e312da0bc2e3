import CallGuard.Command.Texts
import CallGuard.CommandLine.Scan

/-! # Command lines

What the arguments of the program ask for. -/

namespace CallGuard

namespace CommandLine

/-- What is to be done. -/
inductive Task where
  | check (sender target data : String)
  | policy
  | selectors
  | encode (call : CallText)
  | init (force : Bool)
  | admin (caller : String) (change : ChangeText) (note : String) (force : Bool)
  | config
  deriving DecidableEq

/-- What is to be done, and the name of the file of settings. -/
structure Invocation where
  config : String
  task : Task
  deriving DecidableEq

/-- The name of the list as it is given on the command line. -/
def listName : ListKind → String
  | .callSite => "call-site"
  | .asset => "asset"
  | .sender => "sender"
  | .withdrawDestination => "withdraw-destination"
  | .approvalDestination => "approval-destination"

/-- The list of a name. -/
def list? (name : String) : Option ListKind :=
  ListKind.all.find? fun kind => listName kind = name

/-- The commands of the program. -/
def commands : List String :=
  ["check", "policy", "selectors", "encode", "init", "admin", "config", "help"]

/-- The calls that can be encoded. -/
def calls : List String := ["swap", "transfer", "approve", "help"]

/-- The changes that governance can make. -/
def changes : List String := ["allow", "remove", "whitelist-token", "whitelist-router", "help"]

/-- The commands that follow a command. -/
def commandsOf : String → List String
  | "encode" => calls
  | "admin" => changes
  | _ => []

/-- Whether names lead from commands to commands that follow them. -/
def isTopic (known : List String) : List String → Bool
  | [] => true
  | name :: rest => known.contains name && isTopic (commandsOf name) rest

/-- What asking for help on a topic leads to. -/
def helpOn {α : Type} (commands topic : List String) : Except Halt α :=
  .error (if isTopic commands topic then .help else .usage)

/-- Options that must be given once, and flags. -/
def options (singles flags : List String) : List (String × OptionKind) :=
  singles.map (·, .single) ++ flags.map (·, .flag)

/-- A text cut at every comma. -/
def cutAtCommas (text : String) : List String :=
  text.splitOn ","

/-- The call that is to be encoded. -/
def parseCall (args : List String) : Except Halt CallText := do
  let found ← Shape.scan { commands := calls } {} args
  let (name, args) ← found.needCommand
  let scan (options : List (String × OptionKind)) : Except Halt Found := Shape.scan { options } {} args
  match name with
  | "swap" =>
    let found ← scan (("path", .repeated) :: options ["amount-out", "amount-in-max", "to", "deadline"] [])
    let path := found.all "path"
    if path.isEmpty then throw .usage
    return .swap (← found.required "amount-out") (← found.required "amount-in-max") (path.flatMap cutAtCommas)
      (← found.required "to") (← found.required "deadline")
  | "transfer" =>
    let found ← scan (options ["to", "amount"] [])
    return .transfer (← found.required "to") (← found.required "amount")
  | "approve" =>
    let found ← scan (options ["spender", "amount"] [])
    return .approve (← found.required "spender") (← found.required "amount")
  | _ => helpOn calls args

/-- The change that governance is to make, its note, and whether it is forced. -/
def parseChange (name : String) (args : List String) : Except Halt (ChangeText × String × Bool) := do
  let any : String → Bool := fun _ => true
  let keyed : Bool := name = "allow" ∨ name = "remove"
  let shape : Shape :=
    if keyed then
      { options := options ["selector", "note"] ["force"], positionals := [fun kind => (list? kind).isSome, any] }
    else { options := options ["note"] ["force"], positionals := [any] }
  let found ← shape.scan {} args
  let note := (found.value? "note").getD ""
  let force := found.hasFlag "force"
  if keyed then
    match list? (← found.positional 0) with
    | none => throw .usage
    | some kind =>
      let key : KeyText := ⟨kind, ← found.positional 1, found.value? "selector"⟩
      return (if name = "allow" then .allow key else .remove key, note, force)
  else
    let address ← found.positional 0
    return (if name = "whitelist-token" then .whitelistToken address else .whitelistRouter address, note, force)

/-- The change that governance is to make, and in whose name. -/
def parseAdmin (args : List String) : Except Halt Task := do
  let found ← Shape.scan { options := options ["as"] ["force"], commands := changes } {} args
  let (name, args) ← found.needCommand
  if name = "help" then helpOn changes args
  let (change, note, force) ← parseChange name args
  return .admin (← found.required "as") change note (force || found.hasFlag "force")

/-- What a command with its arguments asks for. -/
def parseTask (name : String) (args : List String) : Except Halt Task := do
  let scan (options : List (String × OptionKind)) : Except Halt Found := Shape.scan { options } {} args
  match name with
  | "check" =>
    let found ← scan (options ["sender", "target", "data"] [])
    return .check (← found.required "sender") (← found.required "target") (← found.required "data")
  | "policy" =>
    let _ ← scan []
    return .policy
  | "selectors" =>
    let _ ← scan []
    return .selectors
  | "encode" => return .encode (← parseCall args)
  | "init" =>
    let found ← scan (options [] ["force"])
    return .init (found.hasFlag "force")
  | "admin" => parseAdmin args
  | "config" =>
    let _ ← scan []
    return .config
  | _ => helpOn commands args

/-- The name of the file of settings where none is given. -/
def defaultConfig : String := "guard.toml"

/-- What the arguments of the program ask for. -/
def parse (args : List String) : Except Halt Invocation := do
  let shape : Shape :=
    { options := options ["config"] [], letters := [('c', "config")], commands := commands, hasVersion := true }
  let found ← shape.scan {} args
  let (name, args) ← found.needCommand
  let task ← parseTask name args
  return ⟨(found.value? "config").getD defaultConfig, task⟩

end CommandLine

end CallGuard
