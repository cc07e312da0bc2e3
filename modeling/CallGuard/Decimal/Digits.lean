/-! # Decimal digits

Numbers that runs of decimal digits write, and numbers written with a least number of digits. -/

namespace CallGuard

namespace Decimal

/-- A number in decimal, zeros in front of it until there are `width` digits. -/
def padded (width n : Nat) : List Char :=
  let digits := Nat.toDigits 10 n
  List.replicate (width - digits.length) '0' ++ digits

/-- The number that digits write. -/
def value (digits : List Char) : Nat :=
  Nat.ofDigitChars 10 digits 0

/-- A number with so many zeros put behind its digits. -/
def scale (places n : Nat) : Nat :=
  n * Nat.pow 10 places

/-- The number of digits of a number. -/
def size (n : Nat) : Nat :=
  (Nat.toDigits 10 n).length

/-- A number with a sign, if it fits 64 bits. -/
def signed64? (negative : Bool) (n : Nat) : Option Int :=
  let x := if negative then -Int.ofNat n else Int.ofNat n
  if Int64.minValue.toInt ≤ x ∧ x ≤ Int64.maxValue.toInt then some x else none

@[simp] theorem value_padded (width n : Nat) : value (padded width n) = n := by
  simp only [value, padded, Nat.ofDigitChars_append, Nat.ofDigitChars_replicate_zero]
  exact Nat.ofDigitChars_ten_toDigits

theorem isDigit_of_mem_padded {width n : Nat} {c : Char} (h : c ∈ padded width n) : c.isDigit = true := by
  rcases List.mem_append.mp h with h | h
  · rw [List.eq_of_mem_replicate h]
    decide
  · exact Nat.isDigit_of_mem_toDigits (by decide) (by decide) h

end Decimal

end CallGuard
