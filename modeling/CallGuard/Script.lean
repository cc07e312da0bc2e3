import CallGuard.Disk
import CallGuard.Timestamp

/-! # Scripts

What a command does to the world around it, as a tree of requests: it asks for one thing at a time and goes on with the
answer. A script can be run on a terminal and a file system, or on a world that is only described. -/

namespace CallGuard

/-- What a command can ask for. -/
inductive Request where
  /-- Is there anything under this path? -/
  | isPresent (path : String)
  /-- The text of a file. -/
  | read (path : String)
  /-- The text of the file of this name in the working folder or the nearest one above it. -/
  | readNearest (name : String)
  /-- Put a text behind that of a file, which is made if it is missing. -/
  | append (path text : String)
  /-- Make the folders above the last name of a path. -/
  | makeParents (path : String)
  /-- Put a text in the place of that of a file, which is made if it is missing. -/
  | write (path text : String)
  /-- Print a text. -/
  | print (text : String)
  /-- Print a text among the error messages. -/
  | complain (text : String)
  /-- Let the user confirm; no answer without a terminal. -/
  | confirm (prompt : String)
  /-- The current time. -/
  | now

/-- The answer to a request. -/
abbrev Request.Answer : Request → Type
  | .isPresent _ => Except OsFault Bool
  | .read _ => Except OsFault String
  | .readNearest _ => Option String
  | .append _ _ => Except OsFault Unit
  | .makeParents _ => Except OsFault Unit
  | .write _ _ => Except OsFault Unit
  | .print _ => Unit
  | .complain _ => Unit
  | .confirm _ => Option Bool
  | .now => Timestamp

/-- The answer that keys give to a question whose default is no, and the keys behind it. Keys that mean nothing are
    passed over, and without further keys the default stands. -/
def Request.reply : List Char → Bool × List Char
  | [] => (false, [])
  | c :: rest =>
    if c = 'y' ∨ c = 'Y' then (true, rest)
    else if c = 'n' ∨ c = 'N' ∨ c = '\n' ∨ c = '\r' then (false, rest)
    else reply rest

/-- A result, reached by requests one after the other. -/
inductive Script (α : Type) where
  | done (result : α)
  | ask (request : Request) (next : request.Answer → Script α)

namespace Script

variable {α β γ : Type}

/-- Goes on with the result of a script. -/
def bind (script : Script α) (f : α → Script β) : Script β :=
  match script with
  | .done result => f result
  | .ask request next => .ask request fun answer => (next answer).bind f

instance : Monad Script where
  pure := .done
  bind := bind

theorem bind_done (script : Script α) : script.bind .done = script := by
  induction script with
  | done _ => rfl
  | ask request next ih => simp only [bind, ih]

theorem bind_assoc (script : Script α) (f : α → Script β) (g : β → Script γ) :
    (script.bind f).bind g = script.bind fun a => (f a).bind g := by
  induction script with
  | done _ => rfl
  | ask request next ih => simp only [bind, ih]

/-- Makes one request. -/
def request (r : Request) : Script r.Answer := .ask r .done

/-- Prints a text with an end of line behind it. -/
def printLine (text : String) : Script Unit := request (.print (text ++ "\n"))

/-- Prints a text among the error messages with an end of line behind it. -/
def complainLine (text : String) : Script Unit := request (.complain (text ++ "\n"))

end Script

end CallGuard
