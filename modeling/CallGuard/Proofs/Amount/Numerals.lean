import CallGuard.Proofs.Text.Ascii
import Mathlib.Data.Nat.Digits.Defs

/-! # Numerals

A character stands for the number of its place among the digits and letters. What a numeral writes is the positional
value of the numbers that its characters stand for; other characters are passed over. A numeral never writes less than
what it begins with (`valueOf_le_append`), and the digits of a number write that number (`valueOf_toDigits`). -/

namespace CallGuard.Numeral

/-- The digits of every radix in order, letters in lowercase. -/
def alphabet : List Char :=
  "0123456789abcdefghijklmnopqrstuvwxyz".toList

/-- A character stands for a number, whatever the case of the letter. -/
def Stands (c : Char) (d : Nat) : Prop :=
  alphabet.idxOf? c.toLower = some d

/-- The numbers that the characters of a text stand for. -/
def values (cs : List Char) : List Nat :=
  cs.filterMap fun c => alphabet.idxOf? c.toLower

/-- The positional value of a numeral. -/
def valueOf (radix : Nat) (cs : List Char) : Nat :=
  Nat.ofDigits radix (values cs).reverse

/-! ## Characters -/

theorem idxOf?_of_ascii : ∀ n < 128, digit? (Char.ofNat n) = alphabet.idxOf? (Char.ofNat n).toLower := by
  decide +kernel

theorem lt_of_mem_alphabet {c : Char} (h : c ∈ alphabet) : c.toNat < 128 := by
  have hall : alphabet.all (·.toNat < 128) = true := by decide
  exact of_decide_eq_true (List.all_eq_true.mp hall c h)

theorem digit?_eq_idxOf? (c : Char) : digit? c = alphabet.idxOf? c.toLower := by
  by_cases hc : c.toNat < 128
  · have h := idxOf?_of_ascii c.toNat hc
    rwa [Char.ofNat_toNat] at h
  · have hmem : c ∉ alphabet := fun h => hc (lt_of_mem_alphabet h)
    rw [digit?_of_le (by omega), toLower_of_le (by omega), List.idxOf?_eq_none_iff.mpr hmem]

theorem stands_iff {c : Char} {d : Nat} : Stands c d ↔ digit? c = some d := by
  rw [Stands, digit?_eq_idxOf?]

/-! ## Values -/

section
variable {radix d : Nat} {cs rest : List Char} {c : Char}

theorem values_append (cs rest : List Char) : values (cs ++ rest) = values cs ++ values rest :=
  List.filterMap_append

theorem valueOf_nil (radix : Nat) : valueOf radix [] = 0 :=
  rfl

theorem valueOf_append_digit (h : digit? c = some d) : valueOf radix (cs ++ [c]) = radix * valueOf radix cs + d := by
  have hc : values [c] = [d] := by
    rw [digit?_eq_idxOf?] at h
    simp [values, h]
  rw [valueOf, values_append, hc, List.reverse_append, List.reverse_singleton, List.singleton_append, Nat.ofDigits_cons,
    Nat.add_comm]
  rfl

theorem valueOf_append_other (h : digit? c = none) : valueOf radix (cs ++ [c]) = valueOf radix cs := by
  have hc : values [c] = [] := by
    rw [digit?_eq_idxOf?] at h
    simp [values, h]
  rw [valueOf, values_append, hc, List.append_nil]
  rfl

/-- What follows makes no numeral less. -/
theorem valueOf_le_append (hradix : 0 < radix) (cs rest : List Char) : valueOf radix cs ≤ valueOf radix (cs ++ rest) := by
  rw [valueOf, valueOf, values_append, List.reverse_append, Nat.ofDigits_append]
  have hpow : 1 ≤ radix ^ (values rest).reverse.length := Nat.one_le_pow _ _ hradix
  calc Nat.ofDigits radix (values cs).reverse
      = 1 * Nat.ofDigits radix (values cs).reverse := (Nat.one_mul _).symm
    _ ≤ radix ^ (values rest).reverse.length * Nat.ofDigits radix (values cs).reverse := Nat.mul_le_mul_right _ hpow
    _ ≤ _ := Nat.le_add_left _ _

end

/-! ## Numbers that are written -/

section
variable {radix n : Nat}

theorem digit?_digitChar : ∀ d < 16, digit? (Nat.digitChar d) = some d := by
  decide

theorem digit?_of_mem_toDigits (hradix : 1 < radix) (hsmall : radix ≤ 16) {c : Char} (h : c ∈ Nat.toDigits radix n) :
    ∃ d < radix, digit? c = some d := by
  induction n using Nat.strongRecOn with
  | _ n ih =>
    by_cases hn : n < radix
    · rw [Nat.toDigits_of_lt_base hn, List.mem_singleton] at h
      exact ⟨n, hn, h ▸ digit?_digitChar n (by omega)⟩
    · rw [Nat.toDigits_of_base_le hradix (by omega), List.mem_append, List.mem_singleton] at h
      rcases h with h | rfl
      · exact ih (n / radix) (Nat.div_lt_self (by omega) hradix) h
      · have hlast : n % radix < radix := Nat.mod_lt _ (by omega)
        exact ⟨n % radix, hlast, digit?_digitChar _ (by omega)⟩

/-- The digits of a number write it. -/
theorem valueOf_toDigits (hradix : 1 < radix) (hsmall : radix ≤ 16) (n : Nat) :
    valueOf radix (Nat.toDigits radix n) = n := by
  induction n using Nat.strongRecOn with
  | _ n ih =>
    by_cases hn : n < radix
    · have hdigit := digit?_digitChar n (by omega)
      rw [Nat.toDigits_of_lt_base hn, ← List.nil_append [_], valueOf_append_digit hdigit, valueOf_nil, Nat.mul_zero,
        Nat.zero_add]
    · have hlast : n % radix < radix := Nat.mod_lt _ (by omega)
      have hdigit := digit?_digitChar (n % radix) (by omega)
      rw [Nat.toDigits_of_base_le hradix (by omega), valueOf_append_digit hdigit,
        ih (n / radix) (Nat.div_lt_self (by omega) hradix), Nat.div_add_mod]

end

end CallGuard.Numeral
