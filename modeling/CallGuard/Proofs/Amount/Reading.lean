import CallGuard.Amount
import CallGuard.Proofs.Amount.Numerals

/-! # Reading amounts

A text is read from left to right, the number read so far being the value of what stands before. So it is an amount
exactly if nothing but underscores and digits of its radix stands in it and their value has 256 bits; else the first
character that spoils it decides the fault (`readsAmounts`). -/

namespace CallGuard.Amount
open Numeral

/-- The characters that ask for a radix behind a leading zero. -/
def marks : List (Char × Nat) :=
  [('x', 16), ('X', 16), ('o', 8), ('O', 8), ('b', 2), ('B', 2)]

/-- A text asks for a radix by a zero and a mark, which stand before its body, and else for ten. -/
inductive AsksFor (cs : List Char) : Nat → List Char → Prop where
  | marked {mark : Char} {radix : Nat} {body : List Char} : (mark, radix) ∈ marks → cs = '0' :: mark :: body →
      AsksFor cs radix body
  | unmarked : (∀ entry ∈ marks, ¬ ['0', entry.1] <+: cs) → AsksFor cs 10 cs

/-- Nothing stands in a text but underscores and digits below the radix. -/
def Clean (radix : Nat) (cs : List Char) : Prop :=
  ∀ c ∈ cs, c = '_' ∨ ∃ d < radix, Stands c d

/-- A character spoils the text that begins with `before`. -/
inductive Spoils (radix : Nat) (before : List Char) (c : Char) : Fault → Prop where
  | digitOutOfRange {d : Nat} : Stands c d → radix ≤ d → Spoils radix before c (.digitOutOfRange d radix)
  | tooLarge {d : Nat} : Stands c d → d < radix → 2 ^ 256 - 1 < valueOf radix (before ++ [c]) →
      Spoils radix before c .tooLarge
  | invalidDigit : c ≠ '_' → c.isAlphanum = false → Spoils radix before c (.invalidDigit c)

/-- No character spoils what stands behind `before`. -/
def Unspoiled (radix : Nat) (before cs : List Char) : Prop :=
  ∀ first c rest, cs = first ++ c :: rest → ∀ fault, ¬ Spoils radix (before ++ first) c fault

/-- The fault of a text is that of the leftmost character that spoils it. -/
def HasFault (radix : Nat) (cs : List Char) (fault : Fault) : Prop :=
  ∃ first c rest, cs = first ++ c :: rest ∧ Unspoiled radix [] first ∧ Spoils radix first c fault

/-! ## Marks -/

theorem asksFor_iff {cs body : List Char} {radix : Nat} : AsksFor cs radix body ↔ radixAndDigits cs = (radix, body) := by
  constructor
  · intro h
    cases h with
    | marked hmark hcs =>
      subst hcs
      simp only [marks, List.mem_cons, Prod.mk.injEq, List.not_mem_nil, or_false] at hmark
      rcases hmark with ⟨rfl, rfl⟩ | ⟨rfl, rfl⟩ | ⟨rfl, rfl⟩ | ⟨rfl, rfl⟩ | ⟨rfl, rfl⟩ | ⟨rfl, rfl⟩ <;> rfl
    | unmarked hcs =>
      unfold radixAndDigits
      split
      case h_7 => rfl
      all_goals simp [marks, List.prefix_iff_eq_append] at hcs
  · intro h
    unfold radixAndDigits at h
    split at h
    case h_7 =>
      cases h
      refine .unmarked fun entry hentry => ?_
      simp only [marks, List.mem_cons, List.not_mem_nil, or_false] at hentry
      rcases hentry with rfl | rfl | rfl | rfl | rfl | rfl
      all_goals
        rintro ⟨rest, rfl⟩
        simp at *
    all_goals
      cases h
      refine .marked ?_ rfl
      decide

/-! ## One character -/

section
variable {radix : Nat} {before cs rest : List Char} {c : Char} {soFar : Amount} {fault : Fault}

theorem readDigits_of_spoils (hsoFar : soFar.toNat = valueOf radix before) (h : Spoils radix before c fault)
    (rest : List Char) : readDigits radix soFar (c :: rest) = .error fault := by
  have hunderscore : digit? '_' = none := by decide
  cases h with
  | digitOutOfRange hd hradix =>
    rw [stands_iff] at hd
    have hc : c ≠ '_' := by
      rintro rfl
      cases hunderscore.symm.trans hd
    rw [readDigits, if_neg hc]
    simp only [hd, if_pos hradix]
  | tooLarge hd hradix hvalue =>
    rw [stands_iff] at hd
    have hc : c ≠ '_' := by
      rintro rfl
      cases hunderscore.symm.trans hd
    rw [valueOf_append_digit hd, ← hsoFar] at hvalue
    rw [readDigits, if_neg hc]
    simp only [hd]
    rw [if_neg (by omega), if_neg (by rw [Nat.one_shiftLeft]; omega)]
  | invalidDigit hc hletter =>
    rw [readDigits, if_neg hc, digit?_eq_none_iff.mpr hletter]

theorem readDigits_of_not_spoils (hsoFar : soFar.toNat = valueOf radix before)
    (h : ∀ fault, ¬ Spoils radix before c fault) :
    ∃ next : Amount, next.toNat = valueOf radix (before ++ [c]) ∧
      ∀ rest, readDigits radix soFar (c :: rest) = readDigits radix next rest := by
  by_cases hc : c = '_'
  · subst hc
    have hunderscore : digit? '_' = none := by decide
    exact ⟨soFar, by rw [valueOf_append_other hunderscore, hsoFar], fun rest => by rw [readDigits, if_pos rfl]⟩
  · cases hd : digit? c with
    | none => exact absurd (.invalidDigit hc (digit?_eq_none_iff.mp hd)) (h _)
    | some d =>
      have hradix : d < radix := by
        by_contra hradix
        exact h _ (.digitOutOfRange (stands_iff.mpr hd) (by omega))
      have hvalue : valueOf radix (before ++ [c]) < 2 ^ 256 := by
        by_contra hvalue
        exact h _ (.tooLarge (stands_iff.mpr hd) hradix (by omega))
      refine ⟨BitVec.ofNat 256 (valueOf radix (before ++ [c])), ?_, fun rest => ?_⟩
      · rw [BitVec.toNat_ofNat, Nat.mod_eq_of_lt hvalue]
      · rw [valueOf_append_digit hd, ← hsoFar] at hvalue ⊢
        rw [readDigits, if_neg hc]
        simp only [hd]
        rw [if_neg (by omega), if_pos (by rw [Nat.one_shiftLeft]; exact hvalue)]

/-! ## Runs of characters -/

theorem unspoiled_nil : Unspoiled radix before [] := by
  intro first c rest h
  cases (List.append_eq_nil_iff.mp h.symm).2

theorem unspoiled_cons : Unspoiled radix before (c :: cs) ↔
    (∀ fault, ¬ Spoils radix before c fault) ∧ Unspoiled radix (before ++ [c]) cs := by
  constructor
  · intro h
    refine ⟨fun fault => ?_, fun first d rest hcs fault => ?_⟩
    · have hc := h [] c cs rfl fault
      rwa [List.append_nil] at hc
    · have hd := h (c :: first) d rest (by rw [hcs, List.cons_append]) fault
      rwa [List.append_cons] at hd
  · rintro ⟨hc, hcs⟩ first d rest h fault
    cases first with
    | nil =>
      cases h
      rw [List.append_nil]
      exact hc fault
    | cons e first =>
      cases h
      rw [List.append_cons]
      exact hcs first d rest rfl fault

/-- Behind a run that nothing spoils, the number read so far is still the value of what stands before. -/
theorem readDigits_of_unspoiled (hsoFar : soFar.toNat = valueOf radix before) (h : Unspoiled radix before cs) :
    ∃ next : Amount, next.toNat = valueOf radix (before ++ cs) ∧
      ∀ rest, readDigits radix soFar (cs ++ rest) = readDigits radix next rest := by
  induction cs generalizing before soFar with
  | nil => exact ⟨soFar, by rw [List.append_nil, hsoFar], fun _ => rfl⟩
  | cons c cs ih =>
    obtain ⟨hc, hcs⟩ := unspoiled_cons.mp h
    obtain ⟨next, hnext, hread⟩ := readDigits_of_not_spoils hsoFar hc
    obtain ⟨last, hlast, hread'⟩ := ih hnext hcs
    refine ⟨last, by rw [hlast, ← List.append_cons], fun rest => ?_⟩
    rw [List.cons_append, hread, hread']

theorem readDigits_of_unspoiled_nil (h : Unspoiled radix [] cs) :
    ∃ next : Amount, next.toNat = valueOf radix cs ∧
      ∀ rest, readDigits radix 0 (cs ++ rest) = readDigits radix next rest := by
  have hzero : (0 : Amount).toNat = valueOf radix [] := rfl
  exact readDigits_of_unspoiled hzero h

theorem unspoiled_or_spoilt (radix : Nat) (before cs : List Char) : Unspoiled radix before cs ∨
    ∃ first c rest fault, cs = first ++ c :: rest ∧ Unspoiled radix before first ∧
      Spoils radix (before ++ first) c fault := by
  induction cs generalizing before with
  | nil => exact .inl unspoiled_nil
  | cons c cs ih =>
    by_cases hc : ∃ fault, Spoils radix before c fault
    · obtain ⟨fault, hfault⟩ := hc
      refine .inr ⟨[], c, cs, fault, rfl, unspoiled_nil, ?_⟩
      rwa [List.append_nil]
    · have hc' : ∀ fault, ¬ Spoils radix before c fault := not_exists.mp hc
      rcases ih (before ++ [c]) with hcs | ⟨first, d, rest, fault, rfl, hfirst, hfault⟩
      · exact .inl (unspoiled_cons.mpr ⟨hc', hcs⟩)
      · refine .inr ⟨c :: first, d, rest, fault, rfl, unspoiled_cons.mpr ⟨hc', hfirst⟩, ?_⟩
        rwa [List.append_cons]

theorem readDigits_of_hasFault (h : HasFault radix cs fault) : readDigits radix 0 cs = .error fault := by
  obtain ⟨first, c, rest, rfl, hfirst, hc⟩ := h
  obtain ⟨next, hnext, hread⟩ := readDigits_of_unspoiled_nil hfirst
  rw [hread]
  exact readDigits_of_spoils hnext hc rest

theorem readDigits_eq_ok {a : Amount} :
    readDigits radix 0 cs = .ok a ↔ Unspoiled radix [] cs ∧ a.toNat = valueOf radix cs := by
  constructor
  · intro h
    rcases unspoiled_or_spoilt radix [] cs with hcs | ⟨first, c, rest, fault, hcs, hfirst, hc⟩
    · obtain ⟨next, hnext, hread⟩ := readDigits_of_unspoiled_nil hcs
      have hall := hread []
      rw [List.append_nil, h] at hall
      cases hall
      exact ⟨hcs, hnext⟩
    · cases h.symm.trans (readDigits_of_hasFault ⟨first, c, rest, hcs, hfirst, hc⟩)
  · rintro ⟨hcs, ha⟩
    obtain ⟨next, hnext, hread⟩ := readDigits_of_unspoiled_nil hcs
    have hall := hread []
    rw [List.append_nil] at hall
    rw [hall, BitVec.eq_of_toNat_eq (ha.trans hnext.symm)]
    rfl

theorem readDigits_eq_error : readDigits radix 0 cs = .error fault ↔ HasFault radix cs fault := by
  constructor
  · intro h
    rcases unspoiled_or_spoilt radix [] cs with hcs | ⟨first, c, rest, fault', hcs, hfirst, hc⟩
    · obtain ⟨next, hnext, -⟩ := readDigits_of_unspoiled_nil hcs
      cases h.symm.trans (readDigits_eq_ok.mpr ⟨hcs, hnext⟩)
    · have hfault : HasFault radix cs fault' := ⟨first, c, rest, hcs, hfirst, hc⟩
      cases h.symm.trans (readDigits_of_hasFault hfault)
      exact hfault
  · exact readDigits_of_hasFault

/-! ## Values -/

theorem not_stands_underscore {d : Nat} : ¬ Stands '_' d := by
  rw [stands_iff, show digit? '_' = none by decide]
  nofun

/-- The value never exceeds what fits on the way, unless it does so in the end. -/
theorem unspoiled_iff (hradix : 0 < radix) :
    Unspoiled radix [] cs ↔ Clean radix cs ∧ valueOf radix cs ≤ 2 ^ 256 - 1 := by
  constructor
  · intro h
    constructor
    · intro c hc
      obtain ⟨first, rest, hcs⟩ := List.append_of_mem hc
      have hc := h first c rest hcs
      by_cases hunderscore : c = '_'
      · exact .inl hunderscore
      · cases hd : digit? c with
        | none => exact absurd (.invalidDigit hunderscore (digit?_eq_none_iff.mp hd)) (hc _)
        | some d =>
          refine .inr ⟨d, ?_, stands_iff.mpr hd⟩
          by_contra hlarge
          exact hc _ (.digitOutOfRange (stands_iff.mpr hd) (by omega))
    · obtain ⟨next, hnext, -⟩ := readDigits_of_unspoiled_nil h
      have hfits := next.isLt
      omega
  · rintro ⟨hclean, hvalue⟩ first c rest rfl fault hspoils
    have hc := hclean c (by simp)
    cases hspoils with
    | digitOutOfRange hd hlarge =>
      rcases hc with rfl | ⟨d, hd', hstands⟩
      · exact not_stands_underscore hd
      · cases Option.some.inj (hd.symm.trans hstands)
        omega
    | tooLarge hd _ hlarge =>
      have hle := valueOf_le_append hradix (first ++ [c]) rest
      rw [List.nil_append] at hlarge
      rw [List.append_cons] at hvalue
      omega
    | invalidDigit hunderscore hletter =>
      rcases hc with hc | ⟨d, -, hstands⟩
      · exact hunderscore hc
      · rw [stands_iff, digit?_eq_none_iff.mpr hletter] at hstands
        cases hstands

/-! ## What makes no difference -/

/-- A text without underscores and without the zeros that then stand first. -/
def stripped (cs : List Char) : List Char :=
  (cs.filter (· ≠ '_')).dropWhile (· = '0')

theorem readDigits_filter (radix : Nat) (soFar : Amount) (cs : List Char) :
    readDigits radix soFar (cs.filter (· ≠ '_')) = readDigits radix soFar cs := by
  induction cs generalizing soFar with
  | nil => rfl
  | cons c cs ih =>
    by_cases hc : c = '_'
    · subst hc
      rw [List.filter_cons_of_neg (by simp), ih, readDigits, if_pos rfl]
    · rw [List.filter_cons_of_pos (by simpa using hc)]
      simp only [readDigits, if_neg hc, ih]

theorem readDigits_zero (hradix : 0 < radix) (cs : List Char) :
    readDigits radix 0 ('0' :: cs) = readDigits radix 0 cs := by
  have hzero : digit? '0' = some 0 := by decide
  rw [readDigits, if_neg (by decide)]
  simp only [hzero]
  rw [if_neg (by omega)]
  rfl

theorem readDigits_stripped (hradix : 0 < radix) (cs : List Char) :
    readDigits radix 0 (stripped cs) = readDigits radix 0 cs := by
  have hzeros : ∀ cs : List Char, readDigits radix 0 (cs.dropWhile (· = '0')) = readDigits radix 0 cs := by
    intro cs
    induction cs with
    | nil => rfl
    | cons c cs ih =>
      by_cases hc : c = '0'
      · subst hc
        rw [List.dropWhile_cons_of_pos (by simp), ih, readDigits_zero hradix]
      · rw [List.dropWhile_cons_of_neg (by simpa using hc)]
  rw [stripped, hzeros, readDigits_filter]

end

/-! ## Texts -/

/-- An amount in hexadecimal. -/
def hexadecimal (a : Amount) : String :=
  String.ofList ('0' :: 'x' :: Nat.toDigits 16 a.toNat)

section
variable {text text' : String} {radix : Nat} {body body' : List Char} {fault : Fault} {a : Amount}

theorem AsksFor.read_eq (h : AsksFor text.toList radix body) : read text = readDigits radix 0 body := by
  rw [read, asksFor_iff.mp h]

theorem AsksFor.radix_pos {cs : List Char} (h : AsksFor cs radix body) : 0 < radix := by
  cases h with
  | marked hmark => exact Nat.zero_lt_of_ne_zero (fun h => by simp [marks, h] at hmark)
  | unmarked => decide

theorem AsksFor.read_eq_ok (h : AsksFor text.toList radix body) :
    read text = .ok a ↔ (Clean radix body ∧ valueOf radix body ≤ 2 ^ 256 - 1) ∧ a.toNat = valueOf radix body := by
  rw [h.read_eq, readDigits_eq_ok, unspoiled_iff h.radix_pos]

theorem AsksFor.exists_read_iff (h : AsksFor text.toList radix body) {v : Nat} :
    (∃ a : Amount, read text = .ok a ∧ a.toNat = v) ↔ Clean radix body ∧ valueOf radix body = v ∧ v ≤ 2 ^ 256 - 1 := by
  constructor
  · rintro ⟨a, ha, rfl⟩
    obtain ⟨⟨hclean, hfits⟩, hvalue⟩ := h.read_eq_ok.mp ha
    exact ⟨hclean, hvalue.symm, by omega⟩
  · rintro ⟨hclean, rfl, hfits⟩
    have hvalue : (BitVec.ofNat 256 (valueOf radix body)).toNat = valueOf radix body := by
      rw [BitVec.toNat_ofNat, Nat.mod_eq_of_lt (by omega)]
    exact ⟨_, h.read_eq_ok.mpr ⟨⟨hclean, hfits⟩, hvalue⟩, hvalue⟩

theorem AsksFor.read_congr (h : AsksFor text.toList radix body) (h' : AsksFor text'.toList radix body')
    (hsame : stripped body = stripped body') : read text = read text' := by
  rw [h.read_eq, h'.read_eq, ← readDigits_stripped h.radix_pos, hsame, readDigits_stripped h.radix_pos]

theorem AsksFor.read_toDigits (h : AsksFor text.toList radix (Nat.toDigits radix a.toNat)) (hradix : 1 < radix)
    (hsmall : radix ≤ 16) : read text = .ok a := by
  have hvalue := valueOf_toDigits hradix hsmall a.toNat
  refine h.read_eq_ok.mpr ⟨⟨fun c hc => ?_, ?_⟩, hvalue.symm⟩
  · obtain ⟨d, hd, hdigit⟩ := digit?_of_mem_toDigits hradix hsmall hc
    exact .inr ⟨d, hd, stands_iff.mpr hdigit⟩
  · have hfits := a.isLt
    rw [hvalue]
    omega

theorem read_hexadecimal (a : Amount) : read a.hexadecimal = .ok a := by
  have hasks : AsksFor a.hexadecimal.toList 16 (Nat.toDigits 16 a.toNat) := by
    rw [hexadecimal, String.toList_ofList]
    exact .marked (by decide) rfl
  exact hasks.read_toDigits (by decide) (by decide)

theorem read_decimal (a : Amount) : read a.decimal = .ok a := by
  have htext : a.decimal.toList = Nat.toDigits 10 a.toNat := Nat.toList_repr
  have hmarks : ∀ entry ∈ marks, ∀ d < 10, digit? entry.1 ≠ some d := by decide
  have hasks : AsksFor a.decimal.toList 10 (Nat.toDigits 10 a.toNat) := by
    rw [htext]
    refine .unmarked fun entry hentry hpre => ?_
    have hmark : entry.1 ∈ Nat.toDigits 10 a.toNat := hpre.subset (by simp)
    obtain ⟨d, hd, hdigit⟩ := digit?_of_mem_toDigits (by decide) (by decide) hmark
    exact hmarks entry hentry d hd hdigit
  exact hasks.read_toDigits (by decide) (by decide)

end

/-- How the texts of amounts are read. -/
structure ReadsAmounts : Prop where
  /-- It is clear which radix a text asks for, and what its body is. -/
  asks : ∀ text : String, ∃ radix body, ∀ radix' body',
    AsksFor text.toList radix' body' ↔ radix' = radix ∧ body' = body
  /-- A clean text is read as its value if that fits. -/
  accepted : ∀ text radix body v, AsksFor (String.toList text) radix body →
    ((∃ a : Amount, read text = .ok a ∧ a.toNat = v) ↔ Clean radix body ∧ valueOf radix body = v ∧ v ≤ 2 ^ 256 - 1)
  /-- Any other text is refused for the leftmost character that spoils it. -/
  refused : ∀ text radix body fault, AsksFor (String.toList text) radix body →
    (read text = .error fault ↔ HasFault radix body fault)
  /-- Underscores and leading zeros never matter. -/
  neglected : ∀ text text' radix body body', AsksFor (String.toList text) radix body →
    AsksFor (String.toList text') radix body' → stripped body = stripped body' → read text = read text'
  /-- Amounts are read from their digits, in decimal and in hexadecimal. -/
  decimal : ∀ a : Amount, read a.decimal = .ok a
  hexadecimal : ∀ a : Amount, read a.hexadecimal = .ok a

/-- Texts of amounts are read exactly or refused for the first reason met. -/
theorem readsAmounts : ReadsAmounts where
  asks text := by
    refine ⟨(radixAndDigits text.toList).1, (radixAndDigits text.toList).2, fun radix body => ?_⟩
    rw [asksFor_iff, Prod.ext_iff, @eq_comm _ radix, @eq_comm _ body]
  accepted _ _ _ _ h := h.exists_read_iff
  refused _ _ _ _ h := by rw [h.read_eq, readDigits_eq_error]
  neglected _ _ _ _ _ h h' hsame := h.read_congr h' hsame
  decimal := read_decimal
  hexadecimal := read_hexadecimal

/-- A binary text is spoilt by its two, not by the question mark behind that. A hexadecimal one keeps its value with zeros
    and underscores in it. -/
theorem readsAmounts_spoilt :
    let binary := "0b1_02?".toList
    let padded := "0X_0_0ff".toList
    AsksFor binary 2 "1_02?".toList ∧ read (String.ofList binary) = .error (.digitOutOfRange 2 2) ∧
      AsksFor padded 16 "_0_0ff".toList ∧ read (String.ofList padded) = read "0xff" := by
  intro binary padded
  have hbinary : AsksFor binary 2 "1_02?".toList := asksFor_iff.mpr (by decide)
  have hpadded : AsksFor padded 16 "_0_0ff".toList := asksFor_iff.mpr (by decide)
  have hplain : AsksFor "0xff".toList 16 "ff".toList := asksFor_iff.mpr (by decide)
  have hread : readDigits 2 0 ['1', '_', '0'] = .ok 2 := by decide
  have hstart := (readDigits_eq_ok.mp hread).1
  refine ⟨hbinary, ?_, hpadded, ?_⟩
  · rw [← @String.toList_ofList binary] at hbinary
    refine (readsAmounts.refused _ _ _ _ hbinary).mpr ⟨['1', '_', '0'], '2', ['?'], by decide, hstart, ?_⟩
    refine .digitOutOfRange ?_ (Nat.le_refl 2)
    unfold Stands
    decide
  · rw [← @String.toList_ofList padded] at hpadded
    exact readsAmounts.neglected _ _ _ _ _ hpadded hplain (by decide)

end CallGuard.Amount
