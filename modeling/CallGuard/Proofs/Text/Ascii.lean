import CallGuard.Text.Digit

/-! # Characters beyond ASCII

Past the first 128 characters there are no digits, no letters that stand for numbers, and no case to lower. -/

namespace CallGuard

section
variable {c : Char}

theorem toLower_of_le (h : 128 ≤ c.toNat) : c.toLower = c := by
  refine dif_neg fun hletter => ?_
  have hle : c.toNat ≤ 90 := UInt32.le_iff_toNat_le.mp hletter.2
  omega

theorem digit?_of_le (h : 128 ≤ c.toNat) : digit? c = none := by
  simp only [digit?]
  rw [if_neg (by omega), if_neg (by omega), if_neg (by omega)]

theorem isAlphanum_eq_false : c.isAlphanum = false ↔ ¬ (48 ≤ c.toNat ∧ c.toNat ≤ 57) ∧
    ¬ (97 ≤ c.toNat ∧ c.toNat ≤ 122) ∧ ¬ (65 ≤ c.toNat ∧ c.toNat ≤ 90) := by
  have hranges : c.isAlphanum = (decide (c.val ≥ 65 ∧ c.val ≤ 90) || (decide (c.val ≥ 97) && decide (c.val ≤ 122)) ||
    (decide (c.val ≥ 48) && decide (c.val ≤ 57))) := rfl
  simp [hranges, UInt32.le_iff_toNat_le]
  omega

/-- The characters that stand for numbers are the digits and letters of ASCII. -/
theorem digit?_eq_none_iff : digit? c = none ↔ c.isAlphanum = false := by
  simp only [isAlphanum_eq_false, digit?]
  by_cases hdigit : 48 ≤ c.toNat ∧ c.toNat ≤ 57
  · simp [hdigit]
  · by_cases hlower : 97 ≤ c.toNat ∧ c.toNat ≤ 122
    · simp only [if_neg hdigit, if_pos hlower]
      simp [hlower]
    · by_cases hupper : 65 ≤ c.toNat ∧ c.toNat ≤ 90
      · simp only [if_neg hdigit, if_neg hlower, if_pos hupper]
        simp [hupper]
      · simp only [if_neg hdigit, if_neg hlower, if_neg hupper]
        exact iff_of_true trivial ⟨hdigit, hlower, hupper⟩

end

end CallGuard
