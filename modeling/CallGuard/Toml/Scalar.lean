import CallGuard.Decimal.Binary64
import CallGuard.Text.Digit
import CallGuard.Text.Reading
import CallGuard.Timestamp
import CallGuard.Toml.Tree

/-! # TOML scalars

Strings, numbers, booleans and dates of TOML documents, and the keys of their entries. -/

namespace CallGuard

namespace Toml

open Reading

/-- Whether a character may stand in a comment or between the quotes of a string. -/
def isShown (c : Char) : Bool :=
  c = '\t' || (32 ≤ c.toNat && c.toNat ≠ 127)

/-- Whether a character separates what stands on a line. -/
def isSpace (c : Char) : Bool := c = ' ' || c = '\t'

/-- Leaves out the space on a line. -/
def skipSpace : Reading Unit := do
  let _ ← takeWhile isSpace

/-- Takes the end of a line if it is next, and tells whether it was. -/
def takeNewline : Reading Bool := do
  if ← takeIf ['\n'] then return true
  takeIf ['\r', '\n']

/-- Leaves out a comment if there is one, up to the end of its line. -/
def skipComment : Reading Unit := do
  if ← takeIf ['#'] then
    let _ ← takeWhile isShown

/-- Leaves out space, comments and ends of lines. -/
def skipLines : Reading Unit := do
  let _ ← many do
    skipSpace
    skipComment
    return if ← takeNewline then some () else none

/-- The number that digits of a base write. -/
def numberIn (base : Nat) (digits : List Char) : Nat :=
  digits.foldl (fun n c => base * n + (digitBelow? base c).getD 0) 0

/-- Takes a character given by so many hexadecimal digits. -/
def codePoint (digits : Nat) : Reading Char := do
  let n := numberIn 16 (← takeExactly digits fun c => (digitBelow? 16 c).isSome)
  if n.isValidChar then return Char.ofNat n else failure

/-- Takes what stands behind a backslash. -/
def escaped : Reading Char := do
  match ← next with
  | 'b' => return Char.ofNat 8
  | 't' => return '\t'
  | 'n' => return '\n'
  | 'f' => return Char.ofNat 12
  | 'r' => return '\r'
  | '"' => return '"'
  | '\\' => return '\\'
  | 'u' => codePoint 4
  | 'U' => codePoint 8
  | _ => failure

/-- The mark of strings without escapes. -/
def plainMark : Char := Char.ofNat 39

/-- Takes a string of one line, its first mark taken already. -/
def lineString (mark : Char) : Reading String := do
  let chars ← many do
    match ← next with
    | '\\' => if mark = plainMark then return some '\\' else return some (← escaped)
    | c => if c = mark then return none else if isShown c then return some c else failure
  return String.ofList chars

/-- Takes the end of a line that a backslash joins to the next text, and tells whether there was one. -/
def lineContinuation : Reading Bool := do
  let joined ← attempt do
    skipSpace
    if !(← takeNewline) then failure
  if joined.isNone then return false
  let _ ← many do
    if ← takeNewline then return some ()
    return if (← takeWhile isSpace).isEmpty then none else some ()
  return true

/-- Takes a part of a string of several lines, or its end. Up to two marks may stand together within the string, and up
    to two more right before the three that end it. -/
def longPart (mark : Char) : Reading (Option (List Char)) := do
  let text ← get
  let marks := (text.takeWhile (· = mark)).length
  if 5 < marks then failure
  if marks = 3 then
    set (text.drop 3)
    return none
  if ← takeNewline then return some ['\n']
  match ← next with
  | '\\' =>
    if mark = plainMark then return some ['\\']
    if ← lineContinuation then return some []
    return some [← escaped]
  | c => if isShown c then return some [c] else failure

/-- Takes a string of several lines, its first marks taken already; an end of line right behind them does not count. -/
def longString (mark : Char) : Reading String := do
  let _ ← takeNewline
  return String.ofList (← many (longPart mark)).flatten

/-- Takes a string. -/
def string : Reading String := do
  for mark in ['"', plainMark] do
    if ← takeIf [mark, mark, mark] then return ← longString mark
    if ← takeIf [mark] then return ← lineString mark
  failure

/-- Takes one part of a key. -/
def simpleKey : Reading String := do
  for mark in ['"', plainMark] do
    if ← takeIf [mark] then return ← lineString mark
  return String.ofList (← takeSome fun c => c.isAlphanum || c = '_' || c = '-')

/-- Takes a key: parts with dots between them. -/
def key : Reading (List String × String) := do
  let first ← simpleKey
  let rest ← many do
    let dotted ← attempt do
      skipSpace
      literal '.'
    if dotted.isNone then return none
    skipSpace
    return some (← simpleKey)
  let parts := first :: rest
  return (parts.dropLast, parts.getLast?.getD first)

/-- Takes digits of a kind, single underscores between them left out. -/
def digitRun (p : Char → Bool) : Reading (List Char) := do
  let groups ← many do
    let text ← get
    match text with
    | '_' :: _ => return none
    | _ =>
      let run ← takeWhile p
      if run.isEmpty then return none
      match ← get with
      | '_' :: c :: _ =>
        if !p c then failure
        let _ ← next
        return some run
      | '_' :: [] => failure
      | _ => return some run
  if groups.isEmpty then failure
  return groups.flatten

/-- Takes a sign if there is one, and tells whether it is a minus. -/
def sign : Reading Bool := do
  if ← takeIf ['-'] then return true
  let _ ← takeIf ['+']
  return false

/-- Takes the digits of a decimal number, which do not begin with a needless zero. -/
def decimalDigits : Reading (List Char) := do
  if ← takeIf ['0'] then return ['0'] else digitRun Char.isDigit

/-- Takes an exponent. -/
def exponent : Reading Int := do
  let c ← next
  if c ≠ 'e' ∧ c ≠ 'E' then failure
  let negative ← sign
  let n := Int.ofNat (Decimal.value (← digitRun Char.isDigit))
  return if negative then -n else n

/-- Takes a float. One that is too large for a finite one is refused if it is positive. -/
def float : Reading Binary64 := do
  let negative ← sign
  if ← takeIf ['i', 'n', 'f'] then return .infinite negative
  if ← takeIf ['n', 'a', 'n'] then return .nan
  let whole ← decimalDigits
  let fraction ← if ← takeIf ['.'] then digitRun Char.isDigit else pure []
  let power ← match ← peek? with
    | some 'e' => exponent
    | some 'E' => exponent
    | _ => if fraction.isEmpty then failure else pure 0
  let x := Binary64.ofDecimal negative (Decimal.value (whole ++ fraction)) (power - fraction.length)
  if x = .infinite false then failure
  return x

/-- Takes an integer of 64 bits. -/
def integer : Reading Int := do
  for (mark, base) in [('x', 16), ('o', 8), ('b', 2)] do
    if ← takeIf ['0', mark] then
      return ← Decimal.signed64? false (numberIn base (← digitRun fun c => (digitBelow? base c).isSome))
  Decimal.signed64? (← sign) (Decimal.value (← decimalDigits))

/-- Takes exactly so many digits. -/
def fixedDigits (count : Nat) : Reading Nat := do
  return Decimal.value (← takeExactly count Char.isDigit)

/-- Takes a date. -/
def date : Reading String := do
  let year ← fixedDigits 4
  literal '-'
  let month ← fixedDigits 2
  literal '-'
  let day ← fixedDigits 2
  if Date.Valid ⟨year, month, day⟩ then
    return String.ofList (Decimal.padded 4 year ++ '-' :: Decimal.padded 2 month ++ '-' :: Decimal.padded 2 day)
  else failure

/-- Takes a time of day. -/
def time : Reading String := do
  let hour ← fixedDigits 2
  literal ':'
  let minute ← fixedDigits 2
  literal ':'
  let second ← fixedDigits 2
  let fraction ← if ← takeIf ['.'] then takeSome Char.isDigit else pure []
  let fraction := ((fraction.take 9).reverse.dropWhile (· = '0')).reverse
  if 24 ≤ hour ∨ 60 ≤ minute ∨ 60 < second then failure
  return String.ofList (Decimal.padded 2 hour ++ ':' :: Decimal.padded 2 minute ++ ':' :: Decimal.padded 2 second ++
    if fraction.isEmpty then [] else '.' :: fraction)

/-- Takes an offset from universal time. -/
def zone : Reading String := do
  match ← next with
  | 'Z' => return "Z"
  | 'z' => return "Z"
  | c =>
    if c ≠ '+' ∧ c ≠ '-' then failure
    let hour ← fixedDigits 2
    literal ':'
    let minute ← fixedDigits 2
    if 24 ≤ hour ∨ 60 ≤ minute then failure
    let c := if hour = 0 ∧ minute = 0 then '+' else c
    return String.ofList (c :: Decimal.padded 2 hour ++ ':' :: Decimal.padded 2 minute)

/-- Takes a date, a time of day or both, with an offset if it gives one. -/
def dateTime : Reading String := do
  match ← attempt date with
  | none => time
  | some day =>
    let rest ← attempt do
      let c ← next
      if c ≠ 'T' ∧ c ≠ 't' ∧ c ≠ ' ' then failure
      let clock ← time
      return clock ++ ((← attempt zone).getD "")
    return day ++ (rest.elim "" ("T" ++ ·))

/-- Takes a scalar. -/
def scalar : Reading Node := do
  match ← peek? with
  | some '"' => return .text (← string)
  | some c =>
    if c = plainMark then return .text (← string)
    if ← takeIf ['t', 'r', 'u', 'e'] then return .boolean true
    if ← takeIf ['f', 'a', 'l', 's', 'e'] then return .boolean false
    match ← attempt dateTime with
    | some t => return .text t
    | none =>
      match ← attempt float with
      | some x => return .float x
      | none => return .integer (← integer)
  | none => failure

end Toml

end CallGuard
