import CallGuard.Decimal.Digits
import CallGuard.Text.Blank
import CallGuard.Text.Reading
import CallGuard.Timestamp

/-! # Timestamps as text

Timestamps are written as in RFC 3339, with `Z` for universal time and as few groups of three fraction digits as are
exact. Reading is more lenient: white space may stand between the parts, fields may lack leading zeros, the date and the
time may be parted by a space, and any offset of less than a day is taken. -/

namespace CallGuard

namespace Timestamp

/-- A year: four digits, beyond them a sign and at least four. -/
def yearText (year : Int) : List Char :=
  if 0 ≤ year ∧ year ≤ 9999 then Decimal.padded 4 year.toNat
  else (if year < 0 then '-' else '+') :: Decimal.padded 4 year.natAbs

/-- The fraction of a second, in the fewest groups of three digits that are exact. -/
def fractionText (nanosecond : Nat) : List Char :=
  if nanosecond = 0 then []
  else if nanosecond % 1000000 = 0 then '.' :: Decimal.padded 3 (nanosecond / 1000000)
  else if nanosecond % 1000 = 0 then '.' :: Decimal.padded 6 (nanosecond / 1000)
  else '.' :: Decimal.padded 9 nanosecond

/-- A point in universal time as text. -/
def toChars (t : Timestamp) : List Char :=
  yearText t.date.year ++ '-' :: Decimal.padded 2 t.date.month ++ '-' :: Decimal.padded 2 t.date.day ++
    'T' :: Decimal.padded 2 t.time.hour ++ ':' :: Decimal.padded 2 t.time.minute ++
    ':' :: Decimal.padded 2 t.time.second ++ fractionText t.time.nanosecond ++ ['Z']

open Reading

/-- Leaves out white space. -/
def skipBlanks : Reading Unit :=
  modify trimStart

/-- Takes a number of at most `most` digits, white space in front of it left out. -/
def number (most : Nat) : Reading Nat := do
  skipBlanks
  return Decimal.value (← takeAtMost most Char.isDigit)

/-- Takes a year: up to four digits, or a sign and any number of digits. -/
def yearNumber : Reading Int := do
  skipBlanks
  let text ← get
  match text with
  | '-' :: rest =>
    set rest
    return -Int.ofNat (Decimal.value (← takeSome Char.isDigit))
  | '+' :: rest =>
    set rest
    return Int.ofNat (Decimal.value (← takeSome Char.isDigit))
  | _ => return Int.ofNat (Decimal.value (← takeAtMost 4 Char.isDigit))

/-- Takes a separator with white space around it. -/
def separator (c : Char) : Reading Unit := do
  skipBlanks
  literal c

/-- Takes the fraction of a second if there is one; digits beyond the ninth do not count. -/
def fraction : Reading Nat := do
  match ← get with
  | '.' :: rest =>
    set rest
    let run ← takeAtMost 9 Char.isDigit
    modify (·.dropWhile Char.isDigit)
    return Decimal.scale (9 - run.length) (Decimal.value run)
  | _ => return 0

/-- Takes the character between the date and the time. -/
def dateEnd : Reading Unit := do
  let c ← next
  if c ≠ 't' ∧ c ≠ 'T' ∧ c ≠ ' ' then failure

/-- Takes exactly two digits. -/
def twoDigits : Reading Nat := do
  return Decimal.value (← takeExactly 2 Char.isDigit)

/-- Takes the sign of an offset; a minus may be the mathematical one. -/
def offsetSign : Reading Int := do
  match ← next with
  | '+' => return 1
  | '-' => return -1
  | '\u2212' => return -1
  | _ => failure

/-- Takes an offset from universal time, in minutes. -/
def offset : Reading Int := do
  match ← get with
  | 'Z' :: rest =>
    set rest
    return 0
  | 'z' :: rest =>
    set rest
    return 0
  | a :: b :: c :: rest =>
    if [a, b, c].map Char.toUpper = ['U', 'T', 'C'] then
      set rest
      return 0
    else signed
  | _ => signed
where
  /-- Takes a signed offset of hours and minutes. -/
  signed : Reading Int := do
    let sign ← offsetSign
    let hours ← twoDigits
    modify (·.dropWhile fun c => c = ':' || isBlank c)
    let minutes ← twoDigits
    if 24 ≤ hours ∨ 60 ≤ minutes then failure
    return sign * (60 * hours + minutes)

/-- Takes a whole timestamp. -/
def whole : Reading (Option Timestamp) := do
  let year ← yearNumber
  separator '-'
  let month ← number 2
  separator '-'
  let day ← number 2
  dateEnd
  let hour ← number 2
  separator ':'
  let minute ← number 2
  separator ':'
  let second ← number 2
  let nanosecond ← fraction
  skipBlanks
  let offset ← offset
  return ofLocal? ⟨year, month, day⟩ ⟨hour, minute, second, nanosecond⟩ offset

/-- A point in universal time as text. -/
def text (t : Timestamp) : String :=
  String.ofList t.toChars

/-- The point in time that a text writes. -/
def read? (text : String) : Option Timestamp := do
  let (result, rest) ← whole text.toList
  if trimStart rest = [] then result else none

end Timestamp

end CallGuard
