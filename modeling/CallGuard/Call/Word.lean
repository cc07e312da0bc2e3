import CallGuard.Call

/-! # Words

Arguments are laid out in words of 32 bytes. A number fills a word, an address fills its last 20 bytes behind twelve
zero bytes. -/

namespace CallGuard

/-- A unit of the layout of arguments. -/
abbrev Word := Octets 32

namespace Word

/-- The word of a number, which should be below `2 ^ 256`. -/
def ofNat (n : Nat) : Word :=
  Octets.ofNat 32 n

/-- The word of an amount. -/
def ofAmount (a : Amount) : Word :=
  ofNat a.toNat

/-- The amount that a word holds. -/
def amount (w : Word) : Amount :=
  BitVec.ofNat 256 w.toNat

/-- The word of an address. -/
def ofAddress (a : Address) : Word :=
  ⟨List.replicate 12 0 ++ a.bytes, by simp [a.length_bytes]⟩

/-- The address that a word holds, if the twelve bytes before it are zero. -/
def address? (w : Word) : Option Address :=
  if w.bytes.take 12 = List.replicate 12 0 then some ⟨w.bytes.drop 12, by simp [w.length_bytes]⟩ else none

theorem amount_ofAmount (a : Amount) : (ofAmount a).amount = a := by
  have h := a.isLt
  rw [amount, ofAmount, ofNat, Octets.toNat, Octets.ofNat, Bytes.toNat_ofNat 32 a.toNat (by omega)]
  simp

theorem ofAmount_amount (w : Word) : ofAmount w.amount = w := by
  have h := Bytes.toNat_lt 32 w.bytes w.length_bytes
  apply Octets.ext
  simp only [ofAmount, amount, ofNat, Octets.ofNat, Octets.toNat, BitVec.toNat_ofNat]
  rw [Nat.mod_eq_of_lt (by omega), Bytes.ofNat_toNat 32 w.bytes w.length_bytes]

theorem address?_ofAddress (a : Address) : (ofAddress a).address? = some a := by
  have htake : (List.replicate 12 (0 : UInt8) ++ a.bytes).take 12 = List.replicate 12 0 := by
    rw [List.take_append_of_le_length] <;> simp
  have hdrop : (List.replicate 12 (0 : UInt8) ++ a.bytes).drop 12 = a.bytes := by
    rw [List.drop_append_of_le_length] <;> simp
  simp only [address?, ofAddress, htake, hdrop, ite_true]

theorem address?_eq_some {w : Word} {a : Address} : w.address? = some a ↔ w = ofAddress a := by
  constructor
  · intro h
    simp only [address?, Option.ite_none_right_eq_some, Option.some.injEq] at h
    obtain ⟨hzero, rfl⟩ := h
    apply Octets.ext
    simp only [ofAddress]
    rw [← hzero, List.take_append_drop]
  · rintro rfl
    exact address?_ofAddress a

end Word

end CallGuard
