import CallGuard.Proofs.Text.Reading
import CallGuard.Timestamp.Text
import Mathlib.Algebra.Ring.Nat

/-! # Reading written timestamps

Every point in universal time is read back from its text (`read?_text`), be it with no fraction of a second or with one
of three, six or nine digits. -/

namespace CallGuard

namespace Decimal

theorem length_padded {width n : Nat} (hwidth : 0 < width) (h : n < 10 ^ width) : (padded width n).length = width := by
  have hle := (Nat.length_toDigits_le_iff (b := 10) (by decide) hwidth).mpr h
  rw [padded, List.length_append, List.length_replicate]
  omega

theorem padded_ne_nil (width n : Nat) : padded width n ≠ [] := by
  rw [padded]
  simp [Nat.toDigits_ne_nil]

end Decimal

namespace Timestamp
open Reading Decimal

theorem isBlank_of_isDigit {c : Char} (h : c.isDigit = true) : isBlank c = false := by
  simp only [Char.isDigit, Bool.and_eq_true, decide_eq_true_eq, UInt32.le_iff_toNat_le] at h
  have hlow : 48 ≤ c.toNat := h.1
  have hhigh : c.toNat ≤ 57 := h.2
  simp [isBlank]
  omega

theorem skipBlanks_cons {c : Char} (h : isBlank c = false) (rest : List Char) :
    skipBlanks (c :: rest) = some ((), c :: rest) := by
  show some ((), trimStart (c :: rest)) = _
  rw [trimStart, List.dropWhile_cons_of_neg (by simp [h])]

theorem skipBlanks_padded (width n : Nat) (rest : List Char) :
    skipBlanks (padded width n ++ rest) = some ((), padded width n ++ rest) := by
  obtain ⟨c, digits, hdigits⟩ := List.exists_cons_of_ne_nil (padded_ne_nil width n)
  have hdigit : c.isDigit = true := isDigit_of_mem_padded (hdigits ▸ List.mem_cons_self)
  rw [hdigits]
  exact skipBlanks_cons (isBlank_of_isDigit hdigit) _

theorem number_padded {most n : Nat} (hmost : 0 < most) (h : n < 10 ^ most) (rest : List Char) :
    number most (padded most n ++ rest) = some (n, rest) := by
  have hlength := length_padded hmost h
  rw [number, bind_apply (skipBlanks_padded most n rest),
    bind_apply (takeAtMost_run (padded_ne_nil most n) (fun _ => isDigit_of_mem_padded) (Nat.le_of_eq hlength)
      fun hlt => absurd hlength (Nat.ne_of_lt hlt)), value_padded]
  rfl

theorem separator_cons {c : Char} (h : isBlank c = false) (rest : List Char) :
    separator c (c :: rest) = some ((), rest) := by
  rw [separator, bind_apply (skipBlanks_cons h rest)]
  exact literal_cons c rest

section
variable {n : Nat} {rest : List Char}

theorem takeSome_padded (width n : Nat) (hrest : ∀ c, rest.head? = some c → c.isDigit = false) :
    takeSome Char.isDigit (padded width n ++ rest) = some (padded width n, rest) :=
  takeSome_run (padded_ne_nil width n) (fun _ => isDigit_of_mem_padded) hrest

theorem yearNumber_minus (n : Nat) (hrest : ∀ c, rest.head? = some c → c.isDigit = false) :
    yearNumber ('-' :: padded 4 n ++ rest) = some (-(n : Int), rest) := by
  rw [List.cons_append, yearNumber, bind_apply (skipBlanks_cons (by decide) _), bind_apply (get_apply _)]
  show ((set (padded 4 n ++ rest) : Reading Unit) >>= _) _ = _
  rw [bind_apply (set_apply _ _), bind_apply (takeSome_padded 4 n hrest), value_padded]
  rfl

theorem yearNumber_plus (n : Nat) (hrest : ∀ c, rest.head? = some c → c.isDigit = false) :
    yearNumber ('+' :: padded 4 n ++ rest) = some ((n : Int), rest) := by
  rw [List.cons_append, yearNumber, bind_apply (skipBlanks_cons (by decide) _), bind_apply (get_apply _)]
  show ((set (padded 4 n ++ rest) : Reading Unit) >>= _) _ = _
  rw [bind_apply (set_apply _ _), bind_apply (takeSome_padded 4 n hrest), value_padded]
  rfl

theorem yearNumber_padded (h : n < 10 ^ 4) (hrest : ∀ c, rest.head? = some c → c.isDigit = false) :
    yearNumber (padded 4 n ++ rest) = some ((n : Int), rest) := by
  have hsign : ∀ sign : Char, sign.isDigit = false → ∀ text, padded 4 n ++ rest ≠ sign :: text := by
    intro sign hsign text heq
    obtain ⟨c, digits, hcons⟩ := List.exists_cons_of_ne_nil (padded_ne_nil 4 n)
    have hdigit : c.isDigit = true := isDigit_of_mem_padded (hcons ▸ List.mem_cons_self)
    rw [hcons, List.cons_append] at heq
    rw [(List.cons.inj heq).1, hsign] at hdigit
    cases hdigit
  have hlength : (padded 4 n).length = 4 := length_padded (by decide) h
  have hread : takeAtMost 4 Char.isDigit (padded 4 n ++ rest) = some (padded 4 n, rest) :=
    takeAtMost_run (padded_ne_nil 4 n) (fun _ => isDigit_of_mem_padded) (Nat.le_of_eq hlength) fun _ => hrest
  rw [yearNumber, bind_apply (skipBlanks_padded 4 n rest), bind_apply (get_apply _)]
  -- The text begins with a digit, so the branches for signs are not taken.
  generalize padded 4 n ++ rest = text at hsign hread ⊢
  split
  · exact absurd rfl (hsign '-' (by decide) _)
  · exact absurd rfl (hsign '+' (by decide) _)
  · rw [bind_apply hread, value_padded]
    rfl

/-- A year is read back from its text, where no digit follows. -/
theorem yearNumber_yearText (year : Int) (hrest : ∀ c, rest.head? = some c → c.isDigit = false) :
    yearNumber (yearText year ++ rest) = some (year, rest) := by
  rw [yearText]
  by_cases hyear : 0 ≤ year ∧ year ≤ 9999
  · have hvalue : (year.toNat : Int) = year := Int.toNat_of_nonneg hyear.1
    rw [if_pos hyear, yearNumber_padded (by omega) hrest, hvalue]
  · rw [if_neg hyear]
    by_cases hneg : year < 0
    · have hvalue : -(year.natAbs : Int) = year := by omega
      rw [if_pos hneg, yearNumber_minus _ hrest, hvalue]
    · have hvalue : (year.natAbs : Int) = year := by omega
      rw [if_neg hneg, yearNumber_plus _ hrest, hvalue]

end

/-- A fraction is read back to the nanosecond, however many of its digits are written. -/
theorem fraction_fractionText {n : Nat} (h : n < 1000000000) (rest : List Char) :
    fraction (fractionText n ++ 'Z' :: rest) = some (n, 'Z' :: rest) := by
  have hdigits : ∀ {width value : Nat}, 0 < width → width ≤ 9 → value < 10 ^ width →
      fraction ('.' :: padded width value ++ 'Z' :: rest) = some (scale (9 - width) value, 'Z' :: rest) := by
    intro width value hwidth hle hvalue
    have hlength := length_padded hwidth hvalue
    have hread : takeAtMost 9 Char.isDigit (padded width value ++ 'Z' :: rest) =
        some (padded width value, 'Z' :: rest) :=
      takeAtMost_run (padded_ne_nil _ _) (fun _ => isDigit_of_mem_padded) (by omega) fun _ c hc => by
        cases hc
        decide
    rw [List.cons_append, fraction, bind_apply (get_apply _)]
    show ((set (padded width value ++ 'Z' :: rest) : Reading Unit) >>= _) _ = _
    rw [bind_apply (set_apply _ _), bind_apply hread, hlength, value_padded]
    rfl
  rw [fractionText]
  split
  · rename_i hzero
    rw [hzero]
    rfl
  · split
    · have hscale : scale (9 - 3) (n / 1000000) = n := by
        show n / 1000000 * 1000000 = n
        omega
      rw [hdigits (by decide) (by decide) (by omega), hscale]
    · split
      · have hscale : scale (9 - 6) (n / 1000) = n := by
          show n / 1000 * 1000 = n
          omega
        rw [hdigits (by decide) (by decide) (by omega), hscale]
      · have hscale : scale (9 - 9) n = n := Nat.mul_one n
        rw [hdigits (by decide) (by decide) (by omega), hscale]

/-- A clock set to universal time shows it. -/
theorem ofLocal?_zero (t : Timestamp) : ofLocal? t.date t.time 0 = some t := by
  obtain ⟨hhour, hminute, -⟩ := t.time_valid
  have hminutes :
      (60 * (t.time.hour : Int) + t.time.minute - 0) = ((60 * t.time.hour + t.time.minute : Nat) : Int) := by
    omega
  have hday : ¬ ((60 * t.time.hour + t.time.minute : Nat) : Int) < 0 := by omega
  have hday' : ¬ (1440 : Int) ≤ ((60 * t.time.hour + t.time.minute : Nat) : Int) := by omega
  have hmod : (((60 * t.time.hour + t.time.minute : Nat) : Int) % 1440).toNat = 60 * t.time.hour + t.time.minute := by
    omega
  have htime : ({ t.time with
      hour := (60 * t.time.hour + t.time.minute) / 60
      minute := (60 * t.time.hour + t.time.minute) % 60 } : TimeOfDay) = t.time := by
    have hdiv : (60 * t.time.hour + t.time.minute) / 60 = t.time.hour := by omega
    have hrem : (60 * t.time.hour + t.time.minute) % 60 = t.time.minute := by omega
    rw [hdiv, hrem]
  rw [ofLocal?, if_pos ⟨t.date_valid, t.time_valid⟩]
  simp only [hminutes, if_neg hday, if_neg hday', hmod, htime]
  rw [of?, dif_pos ⟨t.date_valid, t.time_valid⟩]

theorem daysInMonth_le (year : Int) (month : Nat) : daysInMonth year month ≤ 31 := by
  rw [daysInMonth]
  split
  · split <;> decide
  · split <;> decide

theorem whole_toChars (t : Timestamp) : whole t.toChars = some (some t, []) := by
  obtain ⟨-, ⟨-, hmonth⟩, -, hday⟩ := t.date_valid
  obtain ⟨hhour, hminute, hsecond, hnano⟩ := t.time_valid
  have hdays := daysInMonth_le t.date.year t.date.month
  have htwo : ∀ {n : Nat}, n < 100 → ∀ rest, number 2 (padded 2 n ++ rest) = some (n, rest) := fun h rest =>
    number_padded (by decide) h rest
  have hoffset : offset ['Z'] = some (0, []) := rfl
  have hend : ∀ rest, dateEnd ('T' :: rest) = some ((), rest) := fun _ => rfl
  simp only [toChars, List.cons_append, List.append_assoc]
  rw [whole, bind_apply (yearNumber_yearText _ (by simp)), bind_apply (separator_cons (by decide) _),
    bind_apply (htwo (by omega) _), bind_apply (separator_cons (by decide) _), bind_apply (htwo (by omega) _),
    bind_apply (hend _), bind_apply (htwo (by omega) _), bind_apply (separator_cons (by decide) _),
    bind_apply (htwo (by omega) _), bind_apply (separator_cons (by decide) _), bind_apply (htwo (by omega) _),
    bind_apply (fraction_fractionText hnano _), bind_apply (skipBlanks_cons (by decide) _), bind_apply hoffset,
    ofLocal?_zero]
  rfl

/-- A point in time is read back from its text. -/
theorem read?_text (t : Timestamp) : read? t.text = some t := by
  rw [read?, text, String.toList_ofList, whole_toChars]
  rfl

end Timestamp

end CallGuard
