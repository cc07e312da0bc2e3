import CallGuard.Decimal.Digits

/-! # JSON values

The values of JSON texts as they are written: a number keeps its fraction and exponent, an object keeps the order of its
fields with all repetitions. A string whose escapes do not pair up to characters has no text. -/

namespace CallGuard

namespace Json

/-- A number as it is written. -/
structure Number where
  /-- Whether a minus stands in front. -/
  negative : Bool
  /-- The number before the point. -/
  whole : Nat
  /-- The digits behind the point, none if there is no point. -/
  fraction : List Char
  /-- The power of ten behind the digits, if one is written. -/
  exponent : Option Int
  deriving DecidableEq, Repr

namespace Number

/-- A natural number. -/
def ofNat (n : Nat) : Number := ⟨false, n, [], none⟩

/-- The natural number that is written without sign, point or exponent. -/
def natural? (x : Number) : Option Nat :=
  if x = ofNat x.whole then some x.whole else none

/-- The least number that a binary64 float rounds to infinity. -/
def overflow : Nat := (1 <<< 54 - 1) <<< 970

/-- Whether the number is in the range of binary64 floats. -/
def isFinite (x : Number) : Bool :=
  let mantissa := Decimal.scale x.fraction.length x.whole + Decimal.value x.fraction
  let exponent := x.exponent.getD 0 - x.fraction.length
  let size := Decimal.size mantissa + exponent
  if mantissa = 0 ∨ size < 0 then true
  else if 400 < size then false
  else Decimal.scale exponent.toNat mantissa < Decimal.scale (-exponent).toNat overflow

end Number

end Json

/-- A JSON value. -/
inductive Json where
  | null
  | bool (b : Bool)
  | number (x : Json.Number)
  /-- A string, with its text if it has one. -/
  | string (text : Option String)
  | array (items : List Json)
  | object (fields : List (Option String × Json))

namespace Json

/-- The string of a text. -/
def ofText (s : String) : Json := .string (some s)

/-- The number of a natural number. -/
def ofNat (n : Nat) : Json := .number (.ofNat n)

/-- The object of named fields. -/
def ofFields (fields : List (String × Json)) : Json :=
  .object (fields.map fun (name, value) => (some name, value))

end Json

end CallGuard
