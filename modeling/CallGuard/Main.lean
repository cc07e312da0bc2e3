import CallGuard.Program
import Std.Time.DateTime.Timestamp

/-! # The command line

Runs the script of the program on the machine: every request is made of the operating system. -/

namespace CallGuard

namespace Machine

/-- The failure that an error of the operating system reports. -/
def faultOf : IO.Error → OsFault
  | .alreadyExists _ code text => ⟨text, some code.toNat⟩
  | .otherError code text => ⟨text, some code.toNat⟩
  | .resourceBusy code text => ⟨text, some code.toNat⟩
  | .resourceVanished code text => ⟨text, some code.toNat⟩
  | .unsupportedOperation code text => ⟨text, some code.toNat⟩
  | .hardwareFault code text => ⟨text, some code.toNat⟩
  | .unsatisfiedConstraints code text => ⟨text, some code.toNat⟩
  | .illegalOperation code text => ⟨text, some code.toNat⟩
  | .protocolError code text => ⟨text, some code.toNat⟩
  | .timeExpired code text => ⟨text, some code.toNat⟩
  | .interrupted _ code text => ⟨text, some code.toNat⟩
  | .noFileOrDirectory _ code text => ⟨text, some code.toNat⟩
  | .invalidArgument _ code text => ⟨text, some code.toNat⟩
  | .permissionDenied _ code text => ⟨text, some code.toNat⟩
  | .resourceExhausted _ code text => ⟨text, some code.toNat⟩
  | .inappropriateType _ code text => ⟨text, some code.toNat⟩
  | .noSuchThing _ code text => ⟨text, some code.toNat⟩
  | .unexpectedEof => ⟨"unexpected end of file", none⟩
  | .userError _ => ⟨"stream did not contain valid UTF-8", none⟩

/-- Does something, and tells of the failure if it fails. -/
def attempt {α : Type} (action : IO α) : IO (Except OsFault α) := do
  try
    return .ok (← action)
  catch e => return .error (faultOf e)

/-- Whether there is anything under a path. -/
def isPresent (path : String) : IO (Except OsFault Bool) := do
  match ← attempt (IO.FS.Handle.mk path .read) with
  | .ok _ => return .ok true
  | .error fault =>
    if fault.code = OsFault.notFound.code then return .ok false
    else if fault.code = OsFault.notFolder.code then return .error fault
    else return .ok true

/-- The text of the file of a name in this folder or the nearest one above it. -/
def readNearest (name : String) : (levels : Nat) → IO (Option String)
  | 0 => return none
  | levels + 1 => do
    match ← attempt (IO.FS.readFile name) with
    | .ok text => return some text
    | .error _ => readNearest ("../" ++ name) levels

/-- The path of the folder above the last name of a path, empty if there is none. -/
def parentOf (path : String) : String :=
  String.intercalate "/" (path.splitOn "/").dropLast

/-- Asks on the terminal, if there is one. -/
def confirm (prompt : String) : IO (Option Bool) := do
  let input ← IO.getStdin
  if !(← input.isTty) then return none
  IO.eprint (prompt ++ " [y/n] ")
  return some (Request.reply (← input.getLine).toList).1

/-- Makes a request of the machine. -/
def answer : (r : Request) → IO r.Answer
  | .isPresent path => isPresent path
  | .read path => attempt (IO.FS.readFile path)
  | .readNearest name => do
    let folder ← IO.currentDir
    readNearest name (folder.toString.splitOn "/").length
  | .append path text => attempt do
    let file ← IO.FS.Handle.mk path .append
    file.putStr text
    file.flush
  | .makeParents path => attempt do
    let parent := parentOf path
    if parent ≠ "" then IO.FS.createDirAll parent
  | .write path text => attempt (IO.FS.writeFile path text)
  | .print text => IO.print text
  | .complain text => IO.eprint text
  | .confirm prompt => confirm prompt
  | .now => do
    let now ← Std.Time.Timestamp.now
    return .ofNanoseconds now.toNanosecondsSinceUnixEpoch.val.toNat

/-- Runs a script on the machine. -/
def run {α : Type} : Script α → IO α
  | .done result => return result
  | .ask request next => do
    let a ← answer request
    run (next a)

/-- The variables that the process was given. -/
def environment : IO Environment := do
  match ← attempt (IO.FS.readFile "/proc/self/environ") with
  | .error _ => return []
  | .ok text =>
    return (text.splitOn (String.singleton (Char.ofNat 0))).filterMap fun entry =>
      match entry.toList.span (· ≠ '=') with
      | (name, _ :: value) => some (String.ofList name, String.ofList value)
      | _ => none

end Machine

end CallGuard

/-- The program. -/
def main (args : List String) : IO UInt32 := do
  let code ← CallGuard.Machine.run (CallGuard.Program.run args (← CallGuard.Machine.environment))
  return code.toUInt32
