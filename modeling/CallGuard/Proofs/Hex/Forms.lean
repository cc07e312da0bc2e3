import CallGuard.Address
import CallGuard.Proofs.Hex.Spelling

/-! # Forms of hexadecimal text

A byte string may be written in lowercase, in capitals or in a case that carries a check, with the mark or without.
Lowering the case takes every form back to the lowercase one. Digits hold neither white space nor the mark, so both can
be told from the digits that they stand before. -/

namespace CallGuard

namespace Hex

/-! ## The lowercase form -/

theorem length_encode (bs : Bytes) : (encode bs).length = 2 * bs.length := by
  induction bs with
  | nil => rfl
  | cons b bs ih =>
    have hencode : encode (b :: bs) = digits b ++ encode bs := rfl
    rw [hencode, List.length_append, ih, List.length_cons]
    simp [digits]
    omega

theorem toLower_digitChar : ∀ d < 16, (Nat.digitChar d).toLower = Nat.digitChar d := by
  decide

theorem toLower_toUpper_digitChar : ∀ d < 16, (Nat.digitChar d).toUpper.toLower = Nat.digitChar d := by
  decide

theorem exists_of_mem_encode {bs : Bytes} {c : Char} (h : c ∈ encode bs) : ∃ d < 16, Nat.digitChar d = c := by
  rw [encode_eq_map] at h
  obtain ⟨d, hd, rfl⟩ := List.mem_map.mp h
  exact ⟨d, lt_of_mem_halves hd, rfl⟩

theorem toLower_of_mem_encode {bs : Bytes} {c : Char} (h : c ∈ encode bs) : c.toLower = c := by
  obtain ⟨d, hd, rfl⟩ := exists_of_mem_encode h
  exact toLower_digitChar d hd

theorem toLower_toUpper_of_mem_encode {bs : Bytes} {c : Char} (h : c ∈ encode bs) : c.toUpper.toLower = c := by
  obtain ⟨d, hd, rfl⟩ := exists_of_mem_encode h
  exact toLower_toUpper_digitChar d hd

theorem map_toLower_encode (bs : Bytes) : (encode bs).map Char.toLower = encode bs := by
  rw [List.map_congr_left fun c hc => toLower_of_mem_encode hc, List.map_id']

theorem map_toLower_map_toUpper_encode (bs : Bytes) : ((encode bs).map Char.toUpper).map Char.toLower = encode bs := by
  rw [List.map_map]
  exact (List.map_congr_left fun c hc => toLower_toUpper_of_mem_encode hc).trans (List.map_id _)

/-! ## Digits in any case -/

section
variable {cs : List Char} {bs : Bytes} {c : Char}

theorem exists_digitBelow? (h : cs.map Char.toLower = encode bs) (hc : c ∈ cs) : ∃ d, digitBelow? 16 c = some d := by
  have hlower : c.toLower ∈ encode bs := by
    rw [← h]
    exact List.mem_map_of_mem hc
  obtain ⟨d, hd, hdigit⟩ := exists_of_mem_encode hlower
  exact ⟨d, (digitBelow?_eq_some_iff hd).mpr hdigit.symm⟩

/-- The mark is never taken for digits. -/
theorem unmark_of_digits (h : cs.map Char.toLower = encode bs) : unmark cs = cs := by
  unfold unmark
  split
  · obtain ⟨d, hd⟩ : ∃ d, digitBelow? 16 'x' = some d := exists_digitBelow? h (by simp)
    have hx : digitBelow? 16 'x' = none := by decide
    cases hx.symm.trans hd
  · rfl

theorem digitBelow?_of_blank : ∀ n < 128, isBlank (Char.ofNat n) = true → digitBelow? 16 (Char.ofNat n) = none := by
  decide

theorem digitBelow?_of_isBlank (h : isBlank c = true) : digitBelow? 16 c = none := by
  by_cases hc : c.toNat < 128
  · have hblank := digitBelow?_of_blank c.toNat hc
    rw [Char.ofNat_toNat] at hblank
    exact hblank h
  · exact digitBelow?_of_le (by omega)

/-- White space is never taken for digits. -/
theorem isBlank_of_digits (h : cs.map Char.toLower = encode bs) : ∀ c ∈ cs, isBlank c = false := by
  intro c hc
  obtain ⟨d, hd⟩ := exists_digitBelow? h hc
  rw [Bool.eq_false_iff]
  intro hblank
  cases hd.symm.trans (digitBelow?_of_isBlank hblank)

end

end Hex

/-! ## Addresses with a check -/

namespace Address

theorem toLower_withCase {digit digest : Char} (hlower : digit.toLower = digit) (hupper : digit.toUpper.toLower = digit) :
    (withCase digit digest).toLower = digit := by
  unfold withCase
  split
  · exact hupper
  · exact hlower

theorem map_toLower_zipWith_withCase {digits digest : List Char} (hlength : digits.length ≤ digest.length)
    (hlower : ∀ c ∈ digits, c.toLower = c) (hupper : ∀ c ∈ digits, c.toUpper.toLower = c) :
    (List.zipWith withCase digits digest).map Char.toLower = digits := by
  induction digits generalizing digest with
  | nil => rfl
  | cons c digits ih =>
    cases digest with
    | nil => simp at hlength
    | cons d digest =>
      obtain ⟨hc, hlower⟩ := List.forall_mem_cons.mp hlower
      obtain ⟨hc', hupper⟩ := List.forall_mem_cons.mp hupper
      rw [List.zipWith_cons_cons, List.map_cons, toLower_withCase hc hc', ih (Nat.le_of_succ_le_succ hlength) hlower hupper]

/-- Whatever the digest is, only the case of letters depends on it. -/
theorem spells_checksum (a : Address) : Octets.Spells a.checksum a := by
  unfold Octets.Spells checksum
  rw [String.toList_ofList]
  refine map_toLower_zipWith_withCase ?_ (fun _ => Hex.toLower_of_mem_encode) fun _ => Hex.toLower_toUpper_of_mem_encode
  rw [digits, Hex.length_encode, Hex.length_encode, a.length_bytes, Octets.length_bytes]
  decide

end Address

end CallGuard
