import CallGuard.Proofs.Hex.Spelling

/-! # What spoils hexadecimal text

The fault of a text is told from its bytes alone: that they do not pair up, that they are too many or too few, or which
of them is the first that is no digit (`HasFault`). Whatever has no fault is read, so a text is refused exactly for the
fault that it has (`decode_eq_error`, `decodeExactly_eq_error`). -/

namespace CallGuard

namespace Hex

/-- A byte is a digit, in either case. -/
def IsDigit (b : UInt8) : Prop :=
  Char.ofNat b.toNat ∈ "0123456789abcdefABCDEF".toList

instance : DecidablePred IsDigit := fun _ => inferInstanceAs (Decidable (_ ∈ _))

/-- Bytes are digits that pair up. -/
structure Legible (text : Bytes) : Prop where
  even : text.length % 2 = 0
  digits : ∀ b ∈ text, IsDigit b

/-- What is wrong with the bytes of a text that should write `size` bytes, or any number of them where no size is asked
    for. Each fault comes before the ones below it. -/
inductive HasFault (size : Option Nat) (text : Bytes) : Fault → Prop where
  | oddLength : text.length % 2 = 1 → HasFault size text .oddLength
  | wrongLength {n : Nat} : text.length % 2 = 0 → size = some n → text.length ≠ 2 * n → HasFault size text .wrongLength
  | badDigit {before after : Bytes} {b : UInt8} : text.length % 2 = 0 → (∀ n, size = some n → text.length = 2 * n) →
      text = before ++ b :: after → (∀ c ∈ before, IsDigit c) → ¬ IsDigit b →
      HasFault size text (.badDigit b before.length)

/-! ## Bytes that are digits -/

theorem isDigit_of_byte : ∀ n < 256, IsDigit (UInt8.ofNat n) ↔ (value? (UInt8.ofNat n)).isSome := by
  decide +kernel

theorem isDigit_iff {b : UInt8} : IsDigit b ↔ ∃ d, value? b = some d := by
  have h := isDigit_of_byte b.toNat b.toNat_lt
  rwa [UInt8.ofNat_toNat, Option.isSome_iff_exists] at h

theorem value?_eq_none {b : UInt8} : value? b = none ↔ ¬ IsDigit b := by
  rw [isDigit_iff, Option.eq_none_iff_forall_ne_some, not_exists]

theorem isDigit_of_mem_decodePairs {position : Nat} {text bs : Bytes} (h : decodePairs position text = .ok bs) :
    ∀ b ∈ text, IsDigit b := by
  intro b hb
  have hvalue : value? b ∈ (halves bs).map some := by
    rw [← map_value?_of_decodePairs h]
    exact List.mem_map_of_mem hb
  obtain ⟨d, -, hd⟩ := List.mem_map.mp hvalue
  exact isDigit_iff.mpr ⟨d, hd.symm⟩

/-! ## Pairs of digits -/

theorem exists_decodePairs (position : Nat) {text : Bytes} (h : Legible text) :
    ∃ bs, decodePairs position text = .ok bs := by
  obtain ⟨heven, hdigits⟩ := h
  fun_induction decodePairs position text with
  | case1 => exact ⟨[], rfl⟩
  | case2 => simp at heven
  | case3 position high low rest hhigh => exact absurd (hdigits high (by simp)) (value?_eq_none.mp hhigh)
  | case4 position high low rest x hlow hhigh => exact absurd (hdigits low (by simp)) (value?_eq_none.mp hlow)
  | case5 position high low rest x y hlow hhigh ih =>
    simp only [List.length_cons] at heven
    obtain ⟨bs, hbs⟩ := ih (by omega) fun b hb => hdigits b (by simp [hb])
    rw [hbs]
    exact ⟨_, rfl⟩

/-- Reading stops at the first byte that is no digit, though digits are read in pairs. -/
theorem decodePairs_of_badDigit {b : UInt8} (hb : ¬ IsDigit b) (after : Bytes) : ∀ (position : Nat) (before : Bytes),
    (before ++ b :: after).length % 2 = 0 → (∀ c ∈ before, IsDigit c) →
      decodePairs position (before ++ b :: after) = .error (.badDigit b (position + before.length))
  | position, [], heven, _ => by
    cases after with
    | nil => simp at heven
    | cons low rest => simp [decodePairs, value?_eq_none.mpr hb]
  | position, [high], heven, hbefore => by
    obtain ⟨x, hx⟩ := isDigit_iff.mp (hbefore high (by simp))
    simp [decodePairs, value?_eq_none.mpr hb, hx]
  | position, high :: low :: before, heven, hbefore => by
    obtain ⟨x, hx⟩ := isDigit_iff.mp (hbefore high (by simp))
    obtain ⟨y, hy⟩ := isDigit_iff.mp (hbefore low (by simp))
    simp only [List.cons_append, List.length_cons] at heven
    have hrest := decodePairs_of_badDigit hb after (position + 2) before (by omega) fun c hc => hbefore c (by simp [hc])
    simp only [List.cons_append, decodePairs, hx, hy, hrest, List.length_cons]
    rw [show position + 2 + before.length = position + (before.length + 1 + 1) by omega]
    rfl

theorem exists_badDigit {text : Bytes} (h : ¬ ∀ b ∈ text, IsDigit b) :
    ∃ before b after, text = before ++ b :: after ∧ (∀ c ∈ before, IsDigit c) ∧ ¬ IsDigit b := by
  induction text with
  | nil => exact absurd nofun h
  | cons b rest ih =>
    by_cases hb : IsDigit b
    · have hrest : ¬ ∀ c ∈ rest, IsDigit c := fun hrest => h (List.forall_mem_cons.mpr ⟨hb, hrest⟩)
      obtain ⟨before, c, after, rfl, hbefore, hc⟩ := ih hrest
      exact ⟨b :: before, c, after, rfl, List.forall_mem_cons.mpr ⟨hb, hbefore⟩, hc⟩
    · exact ⟨[], b, rest, rfl, nofun, hb⟩

/-! ## Texts -/

section
variable {size : Option Nat} {text : Bytes} {fault : Fault}

theorem hasFault_of_odd (hodd : text.length % 2 = 1) : HasFault size text fault ↔ fault = .oddLength := by
  constructor
  · intro h
    cases h with
    | oddLength => rfl
    | wrongLength heven => omega
    | badDigit heven => omega
  · rintro rfl
    exact .oddLength hodd

theorem hasFault_of_length {n : Nat} (heven : text.length % 2 = 0) (hlength : text.length ≠ 2 * n) :
    HasFault (some n) text fault ↔ fault = .wrongLength := by
  constructor
  · intro h
    cases h with
    | oddLength hodd => omega
    | wrongLength => rfl
    | badDigit _ hsize => exact absurd (hsize n rfl) hlength
  · rintro rfl
    exact .wrongLength heven rfl hlength

theorem decodePairs_eq_error (heven : text.length % 2 = 0) (hsize : ∀ n, size = some n → text.length = 2 * n) :
    decodePairs 0 text = .error fault ↔ HasFault size text fault := by
  constructor
  · intro h
    have hbad : ¬ ∀ b ∈ text, IsDigit b := by
      intro hdigits
      obtain ⟨bs, hbs⟩ := exists_decodePairs 0 ⟨heven, hdigits⟩
      cases h.symm.trans hbs
    obtain ⟨before, b, after, rfl, hbefore, hb⟩ := exists_badDigit hbad
    rw [decodePairs_of_badDigit hb after 0 before heven hbefore, Nat.zero_add] at h
    cases h
    exact .badDigit heven hsize rfl hbefore hb
  · intro h
    cases h with
    | oddLength hodd => omega
    | wrongLength _ hn hlength => exact absurd (hsize _ hn) hlength
    | badDigit _ _ htext hbefore hb =>
      subst htext
      rw [decodePairs_of_badDigit hb _ 0 _ heven hbefore, Nat.zero_add]

end

section
variable {cs : List Char} {bs : Bytes} {fault : Fault}

theorem decode_of_even (heven : (Bytes.ofChars (unmark cs)).length % 2 = 0) :
    decode cs = decodePairs 0 (Bytes.ofChars (unmark cs)) := by
  simp only [decode]
  rw [if_neg (by omega)]

theorem decode_eq_error : decode cs = .error fault ↔ HasFault none (Bytes.ofChars (unmark cs)) fault := by
  rcases Nat.mod_two_eq_zero_or_one (Bytes.ofChars (unmark cs)).length with heven | hodd
  · rw [decode_of_even heven]
    exact decodePairs_eq_error heven fun n hn => nomatch hn
  · rw [hasFault_of_odd hodd, decode, if_pos hodd, Except.error.injEq, eq_comm]

theorem decode_eq_ok : decode cs = .ok bs ↔ (unmark cs).map Char.toLower = encode bs := by
  have hpairs : decodePairs 0 (Bytes.ofChars (unmark cs)) = .ok bs ↔ _ := decodePairs_eq_ok
  rw [← hpairs]
  rcases Nat.mod_two_eq_zero_or_one (Bytes.ofChars (unmark cs)).length with heven | hodd
  · rw [decode_of_even heven]
  · rw [decode, if_pos hodd]
    constructor
    · nofun
    · intro h
      have hlength := length_of_decodePairs h
      omega

theorem exists_decode_iff : (∃ bs, decode cs = .ok bs) ↔ Legible (Bytes.ofChars (unmark cs)) := by
  constructor
  · rintro ⟨bs, h⟩
    have hpairs : decodePairs 0 (Bytes.ofChars (unmark cs)) = .ok bs := decodePairs_eq_ok.mpr (decode_eq_ok.mp h)
    have hlength := length_of_decodePairs hpairs
    exact ⟨by omega, isDigit_of_mem_decodePairs hpairs⟩
  · intro h
    rw [decode_of_even h.even]
    exact exists_decodePairs 0 h

theorem decodeExactly_eq_error {size : Nat} :
    decodeExactly size cs = .error fault ↔ HasFault (some size) (Bytes.ofChars (unmark cs)) fault := by
  simp only [decodeExactly]
  rcases Nat.mod_two_eq_zero_or_one (Bytes.ofChars (unmark cs)).length with heven | hodd
  · rw [if_neg (by omega)]
    by_cases hlength : (Bytes.ofChars (unmark cs)).length = 2 * size
    · rw [if_neg (not_not_intro hlength)]
      refine decodePairs_eq_error heven fun n hn => ?_
      rw [hlength, Option.some.inj hn]
    · rw [if_pos hlength, hasFault_of_length heven hlength, Except.error.injEq, eq_comm]
  · rw [if_pos hodd, hasFault_of_odd hodd, Except.error.injEq, eq_comm]

end

end Hex

namespace Octets

theorem read_eq_error {n : Nat} {text : String} {fault : Hex.Fault} :
    read n text = .error fault ↔ Hex.HasFault (some n) (Bytes.ofChars (Hex.unmark text.toList)) fault := by
  rw [← Hex.decodeExactly_eq_error, read]
  split
  · rename_i bs h
    simp [h]
  · rename_i fault' h
    simp [h]

end Octets

end CallGuard
