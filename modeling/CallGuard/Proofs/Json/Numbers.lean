import CallGuard.Proofs.Json.Scanning
import CallGuard.Proofs.Text.Runs

/-! # Written numbers

A number whose fraction consists of digits is the number that its text writes (`ofWord?_print`). -/

namespace CallGuard.Json

/-! ## Digits -/

section
variable {n : Nat}

theorem isDigit_of_mem_toDigits {c : Char} (h : c ∈ Nat.toDigits 10 n) : c.isDigit = true :=
  Nat.isDigit_of_mem_toDigits (by decide) (by decide) h

/-- No needless zero stands in front of a written number. -/
theorem toDigits_of_head_zero (h : (Nat.toDigits 10 n).head? = some '0') : Nat.toDigits 10 n = ['0'] := by
  induction n using Nat.strongRecOn with
  | _ n ih =>
    by_cases hn : n < 10
    · rw [Nat.toDigits_of_lt_base hn] at h ⊢
      rw [Option.some.inj h]
    · have hdigits := Nat.toDigits_of_base_le (b := 10) (n := n) (by decide) (by omega)
      have hhead : (Nat.toDigits 10 (n / 10)).head? = some '0' := by
        obtain ⟨d, rest, hd⟩ := List.exists_cons_of_ne_nil (Nat.toDigits_ne_nil (n := n / 10) (b := 10))
        rw [hdigits, hd] at h
        rw [hd]
        exact h
      -- What stands before the last digit would be zero, but there are two digits.
      have hzero : n / 10 = 0 := by
        have hvalue := congrArg (Nat.ofDigitChars 10 · 0) (ih (n / 10) (by omega) hhead)
        rwa [Nat.ofDigitChars_ten_toDigits] at hvalue
      omega

theorem takeDigits?_append {digits rest : List Char} (hne : digits ≠ []) (hdigits : ∀ c ∈ digits, c.isDigit = true)
    (hrest : ∀ c, rest.head? = some c → c.isDigit = false) : takeDigits? (digits ++ rest) = some (digits, rest) := by
  rw [takeDigits?, takeWhile_run hdigits hrest, dropWhile_run hdigits hrest, if_neg hne]

theorem takeDigits?_toDigits {rest : List Char} (hrest : ∀ c, rest.head? = some c → c.isDigit = false) :
    takeDigits? (Nat.toDigits 10 n ++ rest) = some (Nat.toDigits 10 n, rest) :=
  takeDigits?_append Nat.toDigits_ne_nil (fun _ => isDigit_of_mem_toDigits) hrest

theorem value_toDigits : Decimal.value (Nat.toDigits 10 n) = n :=
  Nat.ofDigitChars_ten_toDigits

/-- A written number is neither empty nor does it begin with a sign. -/
theorem exists_toDigits_eq_cons (n : Nat) : ∃ d rest, Nat.toDigits 10 n = d :: rest ∧ d.isDigit = true := by
  obtain ⟨d, rest, h⟩ := List.exists_cons_of_ne_nil (Nat.toDigits_ne_nil (n := n) (b := 10))
  exact ⟨d, rest, h, isDigit_of_mem_toDigits (h ▸ List.mem_cons_self)⟩

end

namespace Number
variable {x : Number}

/-- The fraction of a number as it is written. -/
def fractionChars (x : Number) : List Char :=
  if x.fraction = [] then [] else '.' :: x.fraction

/-- The exponent of a number as it is written. -/
def exponentChars (x : Number) : List Char :=
  match x.exponent with
  | none => []
  | some e => 'e' :: (if e < 0 then ['-'] else []) ++ Nat.toDigits 10 e.natAbs

theorem print_eq (x : Number) : x.print =
    (if x.negative then ['-'] else []) ++ (Nat.toDigits 10 x.whole ++ (x.fractionChars ++ x.exponentChars)) := by
  have hparts : x.print =
      (if x.negative then ['-'] else []) ++ Nat.toDigits 10 x.whole ++ x.fractionChars ++ x.exponentChars := rfl
  rw [hparts, List.append_assoc, List.append_assoc]

theorem exponent?_negative {digits : List Char} (h : takeDigits? digits = some (digits, [])) :
    exponent? ('e' :: '-' :: digits) = some (some (-1 * (Decimal.value digits : Int))) := by
  simp [exponent?, h]

theorem exponent?_digits {c : Char} {rest : List Char} (hminus : c ≠ '-') (hplus : c ≠ '+')
    (h : takeDigits? (c :: rest) = some (c :: rest, [])) :
    exponent? ('e' :: c :: rest) = some (some (1 * (Decimal.value (c :: rest) : Int))) := by
  simp [exponent?, hminus, hplus, h]

theorem exponent?_exponentChars (x : Number) : exponent? x.exponentChars = some x.exponent := by
  rw [exponentChars]
  cases x.exponent with
  | none => rfl
  | some e =>
    have hread : takeDigits? (Nat.toDigits 10 e.natAbs ++ []) = some (Nat.toDigits 10 e.natAbs, []) :=
      takeDigits?_toDigits nofun
    have hvalue := value_toDigits (n := e.natAbs)
    rw [List.append_nil] at hread
    simp only
    by_cases hneg : e < 0
    · have hsign : -1 * (e.natAbs : Int) = e := by omega
      rw [if_pos hneg]
      show exponent? ('e' :: '-' :: Nat.toDigits 10 e.natAbs) = _
      rw [exponent?_negative hread, hvalue, hsign]
    · obtain ⟨d, rest, hd, hdigit⟩ := exists_toDigits_eq_cons e.natAbs
      have hminus : d ≠ '-' := by rintro rfl; exact absurd hdigit (by decide)
      have hplus : d ≠ '+' := by rintro rfl; exact absurd hdigit (by decide)
      have hsign : 1 * (e.natAbs : Int) = e := by omega
      rw [hd] at hread hvalue
      rw [if_neg hneg, hd]
      show exponent? ('e' :: d :: rest) = _
      rw [exponent?_digits hminus hplus hread, hvalue, hsign]

theorem head_exponentChars {c : Char} (h : x.exponentChars.head? = some c) : c = 'e' := by
  rw [exponentChars] at h
  cases hx : x.exponent with
  | none => rw [hx] at h; cases h
  | some e => rw [hx] at h; exact (Option.some.inj h).symm

theorem takeFraction?_fractionChars (h : ∀ c ∈ x.fraction, c.isDigit = true) :
    takeFraction? (x.fractionChars ++ x.exponentChars) = some (x.fraction, x.exponentChars) := by
  rw [fractionChars]
  by_cases hx : x.fraction = []
  · rw [if_pos hx, hx, List.nil_append]
    cases he : x.exponentChars with
    | nil => rfl
    | cons c rest =>
      obtain rfl : c = 'e' := head_exponentChars (by rw [he]; rfl)
      rfl
  · rw [if_neg hx, List.cons_append, takeFraction?]
    refine takeDigits?_append hx h fun c hc => ?_
    rw [head_exponentChars hc]
    decide

theorem ofWord?_sign (negative : Bool) {text : List Char} (h : text.head? ≠ some '-') :
    ofWord? ((if negative then ['-'] else []) ++ text) =
      (takeDigits? text).bind fun (whole, rest) =>
        if whole.head? = some '0' ∧ whole ≠ ['0'] then none
        else (takeFraction? rest).bind fun (fraction, rest) =>
          (exponent? rest).bind fun exponent => some ⟨negative, Decimal.value whole, fraction, exponent⟩ := by
  cases negative with
  | true => simp [ofWord?]
  | false =>
    have hminus : ∀ rest, text ≠ '-' :: rest := by
      rintro rest rfl
      exact h rfl
    simp [ofWord?]

theorem head_fractionChars_append {c : Char} (h : (x.fractionChars ++ x.exponentChars).head? = some c) :
    c.isDigit = false := by
  rw [fractionChars] at h
  split at h
  · rw [head_exponentChars h]
    decide
  · cases h
    decide

/-- A number is what its text writes. -/
theorem ofWord?_print (h : ∀ c ∈ x.fraction, c.isDigit = true) : ofWord? x.print = some x := by
  obtain ⟨d, rest, hd, hdigit⟩ := exists_toDigits_eq_cons x.whole
  have hminus : (Nat.toDigits 10 x.whole ++ (x.fractionChars ++ x.exponentChars)).head? ≠ some '-' := by
    rw [hd]
    rintro hhead
    cases hhead
    exact absurd hdigit (by decide)
  have hzeros : ¬ ((Nat.toDigits 10 x.whole).head? = some '0' ∧ Nat.toDigits 10 x.whole ≠ ['0']) := fun hz =>
    hz.2 (toDigits_of_head_zero hz.1)
  rw [print_eq, ofWord?_sign _ hminus, takeDigits?_toDigits fun c => head_fractionChars_append]
  simp only [Option.bind_some, if_neg hzeros, takeFraction?_fractionChars h, exponent?_exponentChars, value_toDigits]

theorem print_ne_nil (x : Number) : x.print ≠ [] := by
  rw [print_eq]
  simp [Nat.toDigits_ne_nil]

/-- A written number is a single word. -/
theorem isWordChar_of_mem_print (h : ∀ c ∈ x.fraction, c.isDigit = true) {c : Char} (hc : c ∈ x.print) :
    Token.isWordChar c = true := by
  have hdigit : ∀ {d : Char}, d.isDigit = true → Token.isWordChar d = true := fun hd => by
    simp [Token.isWordChar, Char.isAlphanum, hd]
  have hnumber : ∀ {n : Nat} {d : Char}, d ∈ Nat.toDigits 10 n → Token.isWordChar d = true := fun hd =>
    hdigit (isDigit_of_mem_toDigits hd)
  rw [print_eq, List.mem_append, List.mem_append, List.mem_append] at hc
  rcases hc with hc | hc | hc | hc
  · split at hc
    · rw [List.mem_singleton.mp hc]
      decide
    · cases hc
  · exact hnumber hc
  · rw [fractionChars] at hc
    split at hc
    · cases hc
    · rcases List.mem_cons.mp hc with rfl | hc
      · decide
      · exact hdigit (h c hc)
  · rw [exponentChars] at hc
    split at hc
    · cases hc
    · rw [List.cons_append, List.mem_cons, List.mem_append] at hc
      rcases hc with rfl | hc | hc
      · decide
      · split at hc
        · rw [List.mem_singleton.mp hc]
          decide
        · cases hc
      · exact hnumber hc

end Number

end CallGuard.Json
