import CallGuard.Proofs.Hex
import CallGuard.Proofs.Text.Ascii

/-! # Spellings of byte strings

Hexadecimal text writes a byte string exactly if it is, but for the case of its letters, the lowercase text of that
byte string (`Hex.decodePairs_eq_ok`). So a text of fixed length has one reading, and a byte string as many spellings as
there are ways to write letters, with or without the mark (`Octets.read_eq_ok_iff_spells`). -/

namespace CallGuard

namespace Hex

/-- The values of the digits of a byte string. -/
def halves (bs : Bytes) : List Nat :=
  bs.flatMap fun b => [b.toNat / 16, b.toNat % 16]

theorem encode_eq_map (bs : Bytes) : encode bs = (halves bs).map Nat.digitChar := by
  rw [halves, List.map_flatMap]
  rfl

theorem lt_of_mem_halves {bs : Bytes} {d : Nat} (h : d ∈ halves bs) : d < 16 := by
  obtain ⟨b, -, hd⟩ := List.mem_flatMap.mp h
  have hb := b.toNat_lt
  rw [List.mem_cons, List.mem_singleton] at hd
  rcases hd with rfl | rfl <;> omega

/-! ## Digits -/

theorem digitBelow?_of_ascii : ∀ n < 128, ∀ d < 16,
    digitBelow? 16 (Char.ofNat n) = some d ↔ (Char.ofNat n).toLower = Nat.digitChar d := by
  decide +kernel

theorem digitChar_lt : ∀ d < 16, (Nat.digitChar d).toNat < 128 := by
  decide

theorem digitBelow?_of_le {c : Char} (h : 128 ≤ c.toNat) : digitBelow? 16 c = none := by
  rw [digitBelow?, digit?_of_le h]
  rfl

/-- A digit is, but for its case, the lowercase digit of its value. -/
theorem digitBelow?_eq_some_iff {c : Char} {d : Nat} (hd : d < 16) :
    digitBelow? 16 c = some d ↔ c.toLower = Nat.digitChar d := by
  by_cases hc : c.toNat < 128
  · have h := digitBelow?_of_ascii c.toNat hc d hd
    rwa [Char.ofNat_toNat] at h
  · rw [digitBelow?_of_le (by omega), toLower_of_le (by omega)]
    have hdigit := digitChar_lt d hd
    constructor
    · nofun
    · rintro rfl
      exact absurd hdigit hc

theorem lt_of_digitBelow? {c : Char} {base d : Nat} (h : digitBelow? base c = some d) : d < base :=
  of_decide_eq_true (Option.filter_eq_some_iff.mp h).2

theorem map_digitBelow?_eq_iff {cs : List Char} {ds : List Nat} (hds : ∀ d ∈ ds, d < 16) :
    cs.map (digitBelow? 16) = ds.map some ↔ cs.map Char.toLower = ds.map Nat.digitChar := by
  induction cs generalizing ds with
  | nil => cases ds <;> simp
  | cons c cs ih =>
    cases ds with
    | nil => simp
    | cons d ds =>
      obtain ⟨hd, hrest⟩ := List.forall_mem_cons.mp hds
      simp only [List.map_cons, List.cons.injEq, digitBelow?_eq_some_iff hd, ih hrest]

/-! ## Bytes of digits -/

theorem value?_of_ascii : ∀ n < 128, value? (UInt8.ofNat n) = digitBelow? 16 (Char.ofNat n) := by
  decide +kernel

theorem value?_of_le : ∀ n < 256, 128 ≤ n → value? (UInt8.ofNat n) = none := by
  decide +kernel

theorem utf8EncodeChar_of_ascii {c : Char} (h : c.toNat < 128) : String.utf8EncodeChar c = [UInt8.ofNat c.toNat] :=
  if_pos (Nat.le_of_lt_succ h)

/-- Whatever is not written by one byte begins with a byte that is no digit. -/
theorem utf8EncodeChar_of_le {c : Char} (h : 128 ≤ c.toNat) :
    ∃ b rest, String.utf8EncodeChar c = b :: rest ∧ value? b = none := by
  have hnone : ∀ n, 128 ≤ n % 256 → value? (UInt8.ofNat n) = none := by
    intro n hn
    have hmod : UInt8.ofNat n = UInt8.ofNat (n % 256) := by
      apply UInt8.toNat_inj.mp
      simp
    rw [hmod]
    exact value?_of_le _ (Nat.mod_lt _ (by decide)) hn
  have hc : ¬ c.val.toNat ≤ 127 := Nat.not_le.mpr h
  simp only [String.utf8EncodeChar]
  rw [if_neg hc]
  split
  · exact ⟨_, _, rfl, hnone _ (by omega)⟩
  · split
    · exact ⟨_, _, rfl, hnone _ (by omega)⟩
    · exact ⟨_, _, rfl, hnone _ (by omega)⟩

/-- The bytes of a text are read as digits exactly if its characters are. -/
theorem map_value?_ofChars {cs : List Char} {ds : List Nat} :
    (Bytes.ofChars cs).map value? = ds.map some ↔ cs.map (digitBelow? 16) = ds.map some := by
  induction cs generalizing ds with
  | nil => rfl
  | cons c cs ih =>
    have hcons : Bytes.ofChars (c :: cs) = String.utf8EncodeChar c ++ Bytes.ofChars cs := rfl
    by_cases hc : c.toNat < 128
    · have hvalue := value?_of_ascii c.toNat hc
      rw [Char.ofNat_toNat] at hvalue
      rw [hcons, utf8EncodeChar_of_ascii hc, List.singleton_append, List.map_cons, List.map_cons, hvalue]
      cases ds with
      | nil => simp
      | cons d ds => simp only [List.map_cons, List.cons.injEq, ih]
    · obtain ⟨b, rest, hbytes, hnone⟩ := utf8EncodeChar_of_le (Nat.not_lt.mp hc)
      rw [hcons, hbytes, List.cons_append, List.map_cons, List.map_cons, hnone, digitBelow?_of_le (Nat.not_lt.mp hc)]
      cases ds <;> simp

theorem map_value?_of_decodePairs {position : Nat} {text bs : Bytes} (h : decodePairs position text = .ok bs) :
    text.map value? = (halves bs).map some := by
  fun_induction decodePairs position text generalizing bs with
  | case1 =>
    cases h
    rfl
  | case2 => cases h
  | case3 => cases h
  | case4 => cases h
  | case5 position high low rest x y hlow hhigh ih =>
    cases hrest : decodePairs (position + 2) rest with
    | error fault =>
      rw [hrest] at h
      cases h
    | ok later =>
      rw [hrest] at h
      cases h
      have hx : x < 16 := lt_of_digitBelow? hhigh
      have hy : y < 16 := lt_of_digitBelow? hlow
      have hbyte : (UInt8.ofNat (16 * x + y)).toNat = 16 * x + y := by
        simp only [UInt8.toNat_ofNat']
        omega
      have hhalves : halves (UInt8.ofNat (16 * x + y) :: later) = x :: y :: halves later := by
        have hfirst : (16 * x + y) / 16 = x := by omega
        have hsecond : (16 * x + y) % 16 = y := by omega
        rw [halves, List.flatMap_cons, hbyte, hfirst, hsecond]
        rfl
      rw [List.map_cons, List.map_cons, hhigh, hlow, ih hrest, hhalves]
      rfl

theorem decodePairs_of_map_value? (position : Nat) {text bs : Bytes} (h : text.map value? = (halves bs).map some) :
    decodePairs position text = .ok bs := by
  induction bs generalizing position text with
  | nil =>
    obtain rfl := List.map_eq_nil_iff.mp h
    rfl
  | cons b bs ih =>
    obtain ⟨high, rest, rfl, hhigh, h⟩ := List.map_eq_cons_iff.mp h
    obtain ⟨low, rest, rfl, hlow, h⟩ := List.map_eq_cons_iff.mp h
    have hvalue : UInt8.ofNat (16 * (b.toNat / 16) + b.toNat % 16) = b := by
      rw [Nat.div_add_mod]
      exact UInt8.ofNat_toNat
    rw [decodePairs, hhigh, hlow]
    show (decodePairs (position + 2) rest).map _ = _
    rw [ih (position + 2) h, hvalue]
    rfl

/-- Digits write a byte string exactly if they are, but for their case, its lowercase digits. -/
theorem decodePairs_eq_ok {position : Nat} {cs : List Char} {bs : Bytes} :
    decodePairs position (Bytes.ofChars cs) = .ok bs ↔ cs.map Char.toLower = encode bs := by
  rw [encode_eq_map, ← map_digitBelow?_eq_iff fun _ => lt_of_mem_halves, ← map_value?_ofChars]
  exact ⟨map_value?_of_decodePairs, decodePairs_of_map_value? position⟩

theorem decodeExactly_eq_ok {size : Nat} {cs : List Char} {bs : Bytes} :
    decodeExactly size cs = .ok bs ↔ (unmark cs).map Char.toLower = encode bs ∧ bs.length = size := by
  constructor
  · intro h
    refine ⟨?_, length_of_decodeExactly h⟩
    simp only [decodeExactly] at h
    split at h
    · cases h
    · split at h
      · cases h
      · exact decodePairs_eq_ok.mp h
  · rintro ⟨hdigits, rfl⟩
    have hdecode : decodePairs 0 (Bytes.ofChars (unmark cs)) = .ok bs := decodePairs_eq_ok.mpr hdigits
    have hlength := length_of_decodePairs hdecode
    rw [decodeExactly, if_neg (by omega), if_neg (by omega), hdecode]

end Hex

namespace Octets
variable {n : Nat}

/-- A text spells a byte string: behind at most one mark stand its digits, the letters in any case. -/
def Spells (text : String) (a : Octets n) : Prop :=
  (Hex.unmark text.toList).map Char.toLower = Hex.encode a.bytes

/-- A text is read as a byte string exactly if it spells it. -/
theorem read_eq_ok_iff_spells {text : String} {a : Octets n} : read n text = .ok a ↔ Spells text a := by
  rw [read_eq_ok, Hex.decodeExactly_eq_ok]
  exact and_iff_left a.length_bytes

end Octets

end CallGuard
