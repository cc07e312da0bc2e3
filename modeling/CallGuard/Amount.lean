import CallGuard.Bytes
import CallGuard.Text.Digit

/-! # Amounts

Amounts are 256-bit unsigned numbers. Their texts may choose a radix by a mark of two characters and may hold
underscores anywhere; the first character that spoils the text decides the fault. -/

namespace CallGuard

/-- A 256-bit unsigned number. -/
abbrev Amount := BitVec 256

namespace Amount

/-- Why a text is no amount. -/
inductive Fault where
  /-- A digit is not below the radix. -/
  | digitOutOfRange (digit radix : Nat)
  /-- The number read so far exceeds 256 bits. -/
  | tooLarge
  /-- A character is neither a digit nor an underscore. -/
  | invalidDigit (c : Char)
  deriving DecidableEq, Repr

/-- The wording of a fault. -/
def Fault.message : Fault → String
  | .digitOutOfRange digit radix =>
    "digit " ++ toString digit ++ " is out of range for base " ++ toString radix
  | .tooLarge => "the value is too large to fit the target type"
  | .invalidDigit c => "invalid digit: " ++ c.toString

/-- A fault with its causes, outermost first: a digit out of range and a number out of range are both reported for a
    conversion that failed for the same reason. -/
def Fault.chain : Fault → List String
  | .invalidDigit c => [Fault.message (.invalidDigit c)]
  | fault => [fault.message, fault.message]

/-- Reads on from the number read so far. -/
def readDigits (radix : Nat) (soFar : Amount) : List Char → Except Fault Amount
  | [] => .ok soFar
  | c :: rest =>
    if c = '_' then readDigits radix soFar rest
    else
      match digit? c with
      | none => .error (.invalidDigit c)
      | some d =>
        if radix ≤ d then .error (.digitOutOfRange d radix)
        else
          let value := radix * soFar.toNat + d
          if value < 1 <<< 256 then readDigits radix (BitVec.ofNat 256 value) rest else .error .tooLarge

/-- The radix that a text asks for, and the digits behind the mark that does so. -/
def radixAndDigits : List Char → Nat × List Char
  | '0' :: 'x' :: rest => (16, rest)
  | '0' :: 'X' :: rest => (16, rest)
  | '0' :: 'o' :: rest => (8, rest)
  | '0' :: 'O' :: rest => (8, rest)
  | '0' :: 'b' :: rest => (2, rest)
  | '0' :: 'B' :: rest => (2, rest)
  | cs => (10, cs)

/-- The amount that a text writes; a text without digits writes zero. -/
def read (text : String) : Except Fault Amount :=
  let (radix, digits) := radixAndDigits text.toList
  readDigits radix 0 digits

/-- An amount in decimal. -/
def decimal (a : Amount) : String :=
  toString a.toNat

end Amount

end CallGuard
