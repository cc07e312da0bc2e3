import CallGuard.Settings.Environment
import CallGuard.Text.Alphanumeric
import CallGuard.Text.Blank
import CallGuard.Text.Reading

/-! # Files of variables

A file can give variables that the environment does not set, one a line. Quoted values may go on over several lines and
may name other variables. Reading stops at the first line that is not understood; the variables before it are kept. -/

namespace CallGuard

namespace DotEnv

/-- Where in a logical line its end is looked for. -/
inductive Scan where
  | plain
  | gap
  | escape
  | weak
  | weakEscape
  | strong
  | strongEscape
  | comment
  deriving DecidableEq, Repr

/-- The mark of text in which nothing is replaced. -/
def strongMark : Char := Char.ofNat 39

/-- What follows a character outside of quotes. -/
def Scan.outside (c : Char) : Scan :=
  if c = '\\' then .escape
  else if c = '"' then .weak
  else if c = strongMark then .strong
  else .plain

/-- What follows a character. -/
def Scan.next (scan : Scan) (c : Char) : Scan :=
  match scan with
  | .gap => if c = '#' then .comment else outside c
  | .plain => if isBlank c && c ≠ '\n' && c ≠ '\r' then .gap else outside c
  | .escape => .plain
  | .weak => if c = '\\' then .weakEscape else if c = '"' then .plain else .weak
  | .weakEscape => .weak
  | .strong => if c = '\\' then .strongEscape else if c = strongMark then .plain else .strong
  | .strongEscape => .strong
  | .comment => .comment

/-- The state at the end of a physical line, and the line up to the comment it may end with. -/
def Scan.line (scan : Scan) (kept : List Char) : List Char → Scan × List Char
  | [] => (scan, kept.reverse)
  | c :: rest =>
    match scan.next c with
    | .comment => (.comment, kept.reverse)
    | next => next.line (c :: kept) rest

/-- The physical lines of a text, each with its end. -/
def physicalLines (current : List Char) : List Char → List (List Char)
  | [] => if current.isEmpty then [] else [current.reverse]
  | c :: rest => if c = '\n' then (c :: current).reverse :: physicalLines [] rest else physicalLines (c :: current) rest

/-- A text without the end of line it may end with. -/
def dropNewline (cs : List Char) : List Char :=
  match cs.reverse with
  | '\n' :: '\r' :: rest => rest.reverse
  | '\n' :: rest => rest.reverse
  | _ => cs

/-- The logical lines of physical ones; `none` stands for a line that is left open at the end of the file. -/
def logicalLines (scan : Scan) (started : List Char) : List (List Char) → List (Option (List Char))
  | [] => if scan = .plain then [] else [none]
  | line :: rest =>
    if (trimStart (started ++ line)).head? = some '#' then some [] :: logicalLines .plain [] rest
    else
      match scan.line [] line with
      | (.plain, kept) => some (dropNewline (started ++ kept)) :: logicalLines .plain [] rest
      | (.comment, kept) => some (started ++ kept) :: logicalLines .plain [] rest
      | (scan, kept) => logicalLines scan (started ++ kept) rest

/-- How far the name of a variable to be put in has been read; the name is held last character first. -/
inductive Reference where
  | none
  | bare (name : List Char)
  | braced (name : List Char)
  deriving DecidableEq, Repr

/-- A value while it is read; its characters are held last first. -/
structure Value where
  output : List Char := []
  strong : Bool := false
  weak : Bool := false
  escaped : Bool := false
  ended : Bool := false
  reference : Reference := .none

/-- The value with the value of a variable behind it; one that is not set has none. -/
def Value.putIn (v : Value) (env : Environment) (name : List Char) : Value :=
  { v with
    output := ((env.get? (String.ofList name.reverse)).getD "").toList.reverse ++ v.output
    reference := .none }

/-- Takes one character of a value. -/
def Value.step (env : Environment) (v : Value) (c : Char) : Option Value :=
  let push (v : Value) (c : Char) : Value := { v with output := c :: v.output }
  if v.ended then if c = ' ' ∨ c = '\t' then some v else none
  else if v.escaped then
    let v := { v with escaped := false }
    if c ∈ ['\\', strongMark, '"', '$', ' '] then some (push v c)
    else if c = 'n' then some (push v '\n')
    else none
  else if v.strong then some (if c = strongMark then { v with strong := false } else push v c)
  else
    match v.reference with
    | .bare name =>
      if isAlphanumeric c then some { v with reference := .bare (c :: name) }
      else if c = '\x7b' ∧ name = [] then some { v with reference := .braced [] }
      else
        let v := v.putIn env name
        some (if c = '$' then { v with reference := .bare [] } else push v c)
    | .braced name =>
      some (if c = '\x7d' then v.putIn env name else { v with reference := .braced (c :: name) })
    | .none =>
      if c = '$' then some { v with reference := .bare [] }
      else if c = '\\' then some { v with escaped := true }
      else if v.weak then some (if c = '"' then { v with weak := false } else push v c)
      else if c = strongMark then some { v with strong := true }
      else if c = '"' then some { v with weak := true }
      else if c = ' ' ∨ c = '\t' then some { v with ended := true }
      else some (push v c)

/-- The value that is complete at the end of its line. -/
def Value.finish (env : Environment) (v : Value) : Option String :=
  if v.strong || v.weak then none
  else
    match v.reference with
    | .none => some (String.ofList v.output.reverse)
    | .bare name => some (String.ofList (v.putIn env name).output.reverse)
    | .braced _ => none

/-- Reads a value up to the comment it may end with. -/
def readValue (env : Environment) (v : Value) : List Char → Option String
  | [] => v.finish env
  | c :: rest => if v.ended && c = '#' then v.finish env else do readValue env (← v.step env c) rest

open Reading

/-- Takes the name of a variable. -/
def name : Reading (List Char) := do
  match ← peek? with
  | some c =>
    if c.isAlpha || c = '_' then takeWhile fun c => c.isAlphanum || c = '_' || c = '.' else failure
  | none => failure

/-- Takes a name, which may stand behind the word `export`, and the equals sign. -/
def nameAndSign : Reading (List Char) := do
  let skip : Reading Unit := modify trimStart
  let first ← name
  skip
  if first = ['e', 'x', 'p', 'o', 'r', 't'] then
    if ← takeIf ['='] then return first
    let second ← name
    skip
    literal '='
    return second
  literal '='
  return first

/-- The variable that a logical line sets, if any; fails on a line that is not understood. -/
def variableOf (env : Environment) (line : List Char) : Option (Option (String × String)) := do
  let line := trim line
  if line.isEmpty || line.head? = some '#' then return none
  let (name, rest) ← nameAndSign line
  let rest := trimStart rest
  let value ← if rest.isEmpty || rest.head? = some '#' then pure "" else readValue env {} rest
  return some (String.ofList name, value)

/-- The environment with the variables of logical lines that it does not set. -/
def setAll (env : Environment) : List (Option (List Char)) → Environment
  | some line :: rest =>
    match variableOf env line with
    | some (some (name, value)) => setAll (env.setDefault name value) rest
    | some none => setAll env rest
    | none => env
  | _ => env

end DotEnv

/-- The environment with the variables of a file that it does not set. -/
def Environment.withFile (env : Environment) (text : String) : Environment :=
  let chars := match text.toList with
    | '\ufeff' :: rest => rest
    | chars => chars
  DotEnv.setAll env (DotEnv.logicalLines .plain [] (DotEnv.physicalLines [] chars))

end CallGuard
