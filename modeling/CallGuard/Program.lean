import CallGuard.Command.Change
import CallGuard.Command.Show
import CallGuard.CommandLine
import CallGuard.Settings.DotEnv
import CallGuard.Settings.Load

/-! # The program

What the program does with its arguments and its environment, as one script that ends in an exit code: 0 for success, 1
for a failure, 2 for a rejection or a wrong command line. -/

namespace CallGuard

namespace Program

/-- The name and version of the program. -/
def version : String := "guard 0.1.0"

/-- How the program is called. -/
def help : String :=
  "Usage: guard [OPTIONS] <COMMAND>\n\n" ++
  "Commands:\n" ++
  "  check      --sender <SENDER> --target <TARGET> --data <DATA>\n" ++
  "  policy\n" ++
  "  selectors\n" ++
  "  encode     swap|transfer|approve\n" ++
  "  init       [--force]\n" ++
  "  admin      --as <ADDRESS> [--force] allow|remove|whitelist-token|whitelist-router\n" ++
  "  config\n" ++
  "  help\n\n" ++
  "Options:\n" ++
  "  -c, --config <CONFIG>  [default: guard.toml]\n" ++
  "  -h, --help\n" ++
  "  -V, --version"

/-- The exit code of a success. -/
def success : UInt8 := 0

/-- The exit code of a failure. -/
def failure : UInt8 := 1

/-- The exit code of a rejection, and of a wrong command line. -/
def rejection : UInt8 := 2

/-- The causes of a failure, each on a line of its own and numbered if there are several. -/
def causeLines : List String → String
  | [] => ""
  | [cause] => "\n\nCaused by:\n    " ++ cause
  | causes =>
    "\n\nCaused by:\n" ++
      String.intercalate "\n" (causes.mapIdx fun i cause => "    " ++ toString i ++ ": " ++ cause)

/-- Tells of a failure; a rejection by the guard has an exit code of its own. -/
def report (f : Failure) : Script UInt8 := do
  match f with
  | .violation v =>
    Script.complainLine ("DENIED " ++ v.kind ++ ": " ++ v.message)
    return rejection
  | f =>
    Script.complainLine ("Error: " ++ f.message ++ causeLines f.chain.tail)
    return failure

/-- Carries out a command. -/
def finish (command : Command UInt8) : Script UInt8 := do
  match ← command.run with
  | .ok code => return code
  | .error f => report f

/-- The ending of the names of files of settings. -/
def ending : String := ".toml"

/-- Whether a path names a file with the ending of settings, and not only that ending. -/
def hasEnding (path : String) : Bool :=
  let name := (Disk.names path).getLast?.getD ""
  name.endsWith ending && name ≠ ending

/-- A path with the ending of settings behind its last name. -/
def withEnding (path : String) : String :=
  String.ofList (path.toList.reverse.dropWhile (· = '/')).reverse ++ ending

/-- The text of a file of settings. A file with another ending is not read; where there is no file, the ending is put
    behind its name. -/
def readSettings (path : String) : Script (Option String) := do
  if Disk.names path = [] then return none
  match ← Script.request (.read path) with
  | .ok text => return if hasEnding path then some text else none
  | .error _ => return (← Script.request (.read (withEnding path))).toOption

/-- Carries out a task that needs settings. -/
def runTask (settings : Settings) : CommandLine.Task → Command UInt8
  | .check sender target data => do
    return if ← Command.check settings sender target data then success else rejection
  | .policy => do
    Command.showPolicy settings
    return success
  | .init force => do
    Command.init settings force
    return success
  | .admin caller change note force => do
    Command.admin settings caller change note force
    return success
  | .config => do
    Command.showSettings settings
    return success
  | .selectors => do
    Command.showFunctions
    return success
  | .encode call => do
    let _ ← Command.encode call
    return success

/-- Whether a task needs settings. -/
def needsSettings : CommandLine.Task → Bool
  | .selectors => false
  | .encode _ => false
  | _ => true

/-- Carries out what is asked for. -/
def carryOut (env : Environment) (invocation : CommandLine.Invocation) : Script UInt8 := do
  if !needsSettings invocation.task then return ← finish (runTask {} invocation.task)
  match Settings.load (← readSettings invocation.config) env with
  | .error fault =>
    Script.complainLine ("Failed to load configuration: " ++ String.intercalate ": " fault.chain)
    return failure
  | .ok settings => finish (runTask settings invocation.task)

/-- What the program does. -/
def run (args : List String) (env : Environment) : Script UInt8 := do
  let env := match ← Script.request (.readNearest ".env") with
    | some text => env.withFile text
    | none => env
  match CommandLine.parse args with
  | .ok invocation => carryOut env invocation
  | .error .help =>
    Script.printLine help
    return success
  | .error .noCommand =>
    Script.complainLine help
    return rejection
  | .error .version =>
    Script.printLine version
    return success
  | .error .usage =>
    Script.complainLine ("error: the arguments are not understood\n\n" ++ help)
    return rejection

end Program

end CallGuard
