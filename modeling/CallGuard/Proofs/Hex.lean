import CallGuard.Octets

/-! # Reading written hexadecimal

A byte string is read back from its lowercase digits, with or without the mark in front of them. -/

namespace CallGuard

namespace Hex

theorem ofChars_digitChar : ∀ d < 16, Bytes.ofChars [Nat.digitChar d] = [UInt8.ofNat (Nat.digitChar d).toNat] := by
  decide

theorem value?_digitChar : ∀ d < 16, value? (UInt8.ofNat (Nat.digitChar d).toNat) = some d := by
  decide

theorem ofChars_digits (b : UInt8) : ∃ high low, Bytes.ofChars (digits b) = [high, low] ∧
    value? high = some (b.toNat / 16) ∧ value? low = some (b.toNat % 16) := by
  have hb := b.toNat_lt
  have hhigh : b.toNat / 16 < 16 := by omega
  have hlow : b.toNat % 16 < 16 := by omega
  refine ⟨_, _, ?_, value?_digitChar _ hhigh, value?_digitChar _ hlow⟩
  have hdigits : digits b = [Nat.digitChar (b.toNat / 16)] ++ [Nat.digitChar (b.toNat % 16)] := rfl
  rw [hdigits, Bytes.ofChars_append, ofChars_digitChar _ hhigh, ofChars_digitChar _ hlow]
  rfl

theorem decodePairs_encode (position : Nat) (bs : Bytes) :
    decodePairs position (Bytes.ofChars (encode bs)) = .ok bs := by
  induction bs generalizing position with
  | nil => rfl
  | cons b bs ih =>
    obtain ⟨high, low, hdigits, hhigh, hlow⟩ := ofChars_digits b
    have hvalue : UInt8.ofNat (16 * (b.toNat / 16) + b.toNat % 16) = b := by
      rw [Nat.div_add_mod]
      exact UInt8.ofNat_toNat
    have hencode : encode (b :: bs) = digits b ++ encode bs := rfl
    rw [hencode, Bytes.ofChars_append, hdigits, List.cons_append, List.singleton_append, decodePairs, hhigh, hlow]
    show (decodePairs (position + 2) _).map _ = _
    rw [ih, hvalue]
    rfl

theorem decodeExactly_encodeMarked {size : Nat} {bs : Bytes} (h : bs.length = size) :
    decodeExactly size (encodeMarked bs) = .ok bs := by
  have hdecode := decodePairs_encode 0 bs
  have hlength := length_of_decodePairs hdecode
  have hunmark : unmark (encodeMarked bs) = encode bs := rfl
  rw [decodeExactly, hunmark, if_neg (by omega), if_neg (by omega), hdecode]

end Hex

namespace Octets
variable {n : Nat}

theorem read_eq_ok {text : String} {a : Octets n} :
    read n text = .ok a ↔ Hex.decodeExactly n text.toList = .ok a.bytes := by
  rw [read]
  split
  · rename_i bs h
    constructor
    · intro ha
      rw [h, ← Except.ok.inj ha]
    · intro hbs
      exact congrArg Except.ok (ext (Except.ok.inj (h.symm.trans hbs)))
  · rename_i fault h
    constructor
    · intro ha
      cases ha
    · intro hbs
      cases h.symm.trans hbs

theorem read_toHex (a : Octets n) : read n a.toHex = .ok a := by
  rw [read_eq_ok, toHex, String.toList_ofList]
  exact Hex.decodeExactly_encodeMarked a.length_bytes

end Octets

end CallGuard
