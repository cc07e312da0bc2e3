import CallGuard.Decimal.Digits

/-! # Binary64 floats

Floats of 64 bits as exact numbers: the float nearest to a decimal number, ties going to the even one, and the shortest
decimal text that is nearest to a float. -/

namespace CallGuard

/-- A binary64 float. -/
inductive Binary64 where
  /-- The number `significand * 2 ^ exponent` with a sign. -/
  | finite (negative : Bool) (significand : Nat) (exponent : Int)
  | infinite (negative : Bool)
  | nan
  deriving DecidableEq, Repr

namespace Binary64

/-- The least exponent of a float. -/
def leastExponent : Int := -1074

/-- The least significand with all its 53 bits. -/
def leastNormal : Nat := 1 <<< 52

/-- The quotient rounded to the nearest natural number, a half to the even one. -/
def roundDiv (num den : Nat) : Nat :=
  let q := num / den
  let r := num % den
  if 2 * r < den then q
  else if den < 2 * r then q + 1
  else q + q % 2

/-- The float nearest to the positive fraction `num / den`. -/
def ofFraction (negative : Bool) (num den : Nat) : Binary64 :=
  let scaled (exponent : Int) : Nat × Nat := (num <<< (-exponent).toNat, den <<< exponent.toNat)
  let guess := max leastExponent (Int.ofNat num.log2 - Int.ofNat den.log2 - 53)
  let (n, d) := scaled guess
  let exponent := if 2 * leastNormal ≤ n / d then guess + 1 else guess
  let (n, d) := scaled exponent
  let significand := roundDiv n d
  let (significand, exponent) :=
    if significand = 2 * leastNormal then (leastNormal, exponent + 1) else (significand, exponent)
  if 971 < exponent then .infinite negative else .finite negative significand exponent

/-- The float nearest to `mantissa * 10 ^ exponent`. -/
def ofDecimal (negative : Bool) (mantissa : Nat) (exponent : Int) : Binary64 :=
  let size := Decimal.size mantissa + exponent
  if mantissa = 0 ∨ size < -400 then .finite negative 0 leastExponent
  else if 400 < size then .infinite negative
  else ofFraction negative (Decimal.scale exponent.toNat mantissa) (Decimal.scale (-exponent).toNat 1)

/-- Whether the float is zero. -/
def isZero : Binary64 → Bool
  | .finite _ significand _ => significand = 0
  | _ => false

/-- The numerator and denominator of `n * 2 ^ exponent / 10 ^ place`. -/
def atPlace (n : Nat) (exponent place : Int) : Nat × Nat :=
  (Decimal.scale (-place).toNat (n <<< exponent.toNat), Decimal.scale place.toNat (1 <<< (-exponent).toNat))

/-- The decimal number `d * 10 ^ place` of the fewest digits among those for which the given float is the nearest, and
    of these the nearest to the float; the search starts at a place and goes on for `fuel` places below it. -/
def shortest (significand : Nat) (exponent : Int) : (fuel : Nat) → (place : Int) → Nat × Int
  | 0, place => (0, place)
  | fuel + 1, place =>
    let gap := if significand = leastNormal ∧ leastExponent < exponent then 1 else 2
    let (value, den) := atPlace (4 * significand) (exponent - 2) place
    let (low, _) := atPlace (4 * significand - gap) (exponent - 2) place
    let (high, _) := atPlace (4 * significand + 2) (exponent - 2) place
    let reads (d : Nat) : Bool :=
      if significand % 2 = 0 then low ≤ d * den && d * den ≤ high else low < d * den && d * den < high
    let below := value / den
    match reads below, reads (below + 1) with
    | true, true => if 2 * value ≤ (2 * below + 1) * den then (below, place) else (below + 1, place)
    | true, false => (below, place)
    | false, true => (below + 1, place)
    | false, false => shortest significand exponent fuel (place - 1)

/-- The number `d * 10 ^ place` in positional notation. -/
def positional (d : Nat) (place : Int) : List Char :=
  let digits := Nat.toDigits 10 d
  if 0 ≤ place then digits ++ List.replicate place.toNat '0'
  else
    let places := (-place).toNat
    let digits := List.replicate (places + 1 - digits.length) '0' ++ digits
    let (whole, fraction) := digits.splitAt (digits.length - places)
    let fraction := (fraction.reverse.dropWhile (· = '0')).reverse
    whole ++ if fraction = [] then [] else '.' :: fraction

/-- A float in positional notation, with the fewest digits that read back and no point behind a whole number. -/
def text : Binary64 → String
  | .nan => "NaN"
  | .infinite negative => if negative then "-inf" else "inf"
  | .finite negative significand exponent =>
    let digits :=
      if significand = 0 then ['0']
      else
        let (d, place) := shortest significand exponent 800 310
        positional d place
    String.ofList ((if negative then ['-'] else []) ++ digits)

end Binary64

end CallGuard
