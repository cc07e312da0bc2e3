/-! # Byte strings

The bytes of a text, and numbers written in big-endian order. Reading a number back undoes writing it
(`toNat_ofNat`), and writing undoes reading (`ofNat_toNat`). -/

namespace CallGuard

/-- A byte string. -/
abbrev Bytes := List UInt8

namespace Bytes

/-- The UTF-8 bytes of a list of characters. -/
def ofChars (cs : List Char) : Bytes :=
  cs.flatMap String.utf8EncodeChar

/-- The UTF-8 bytes of a text. -/
def ofText (s : String) : Bytes :=
  ofChars s.toList

@[simp] theorem ofChars_nil : ofChars [] = [] := rfl

@[simp] theorem ofChars_append (xs ys : List Char) : ofChars (xs ++ ys) = ofChars xs ++ ofChars ys := by
  simp [ofChars]

/-- The number that a byte string writes, most significant byte first. -/
def toNat (bs : Bytes) : Nat :=
  bs.foldl (fun n b => 256 * n + b.toNat) 0

/-- The `k` low base-256 digits of `n`, most significant first. -/
def ofNat : (k n : Nat) → Bytes
  | 0, _ => []
  | k + 1, n => ofNat k (n / 256) ++ [UInt8.ofNat n]

@[simp] theorem length_ofNat (k n : Nat) : (ofNat k n).length = k := by
  induction k generalizing n with
  | zero => rfl
  | succ k ih => simp [ofNat, ih]

@[simp] theorem toNat_nil : toNat [] = 0 := rfl

theorem toNat_append_singleton (bs : Bytes) (b : UInt8) : toNat (bs ++ [b]) = 256 * toNat bs + b.toNat := by
  simp [toNat]

/-- Every byte string is empty or ends in a byte. -/
theorem eq_nil_or_append_singleton (bs : Bytes) : bs = [] ∨ ∃ init last, bs = init ++ [last] := by
  rcases List.eq_nil_or_concat bs with h | ⟨init, last, h⟩
  · exact .inl h
  · exact .inr ⟨init, last, by simpa using h⟩

/-- A byte more has room for 256 times as many numbers. -/
theorem shiftLeft_byte (k : Nat) : 1 <<< (8 * (k + 1)) = 256 * 1 <<< (8 * k) := by
  simp only [Nat.one_shiftLeft, Nat.mul_add, Nat.pow_add]
  omega

theorem toNat_lt (k : Nat) (bs : Bytes) (h : bs.length = k) : toNat bs < 1 <<< (8 * k) := by
  induction k generalizing bs with
  | zero => simp [List.eq_nil_of_length_eq_zero h]
  | succ k ih =>
    rcases eq_nil_or_append_singleton bs with rfl | ⟨init, last, rfl⟩
    · simp at h
    · have hinit := ih init (by simpa using h)
      have hlast := last.toNat_lt
      rw [toNat_append_singleton, shiftLeft_byte]
      omega

theorem toNat_ofNat (k n : Nat) (h : n < 1 <<< (8 * k)) : toNat (ofNat k n) = n := by
  induction k generalizing n with
  | zero => simp_all [ofNat]
  | succ k ih =>
    rw [ofNat, toNat_append_singleton, ih (n / 256) (by rw [shiftLeft_byte] at h; omega)]
    have : (UInt8.ofNat n).toNat = n % 256 := by simp
    omega

theorem ofNat_toNat (k : Nat) (bs : Bytes) (h : bs.length = k) : ofNat k (toNat bs) = bs := by
  induction k generalizing bs with
  | zero => simp [List.eq_nil_of_length_eq_zero h, ofNat]
  | succ k ih =>
    rcases eq_nil_or_append_singleton bs with rfl | ⟨init, last, rfl⟩
    · simp at h
    · have hlast := last.toNat_lt
      have hdiv : (256 * toNat init + last.toNat) / 256 = toNat init := by omega
      have hmod : UInt8.ofNat (256 * toNat init + last.toNat) = last := by
        apply UInt8.toNat_inj.mp
        simp
      rw [toNat_append_singleton, ofNat, hdiv, hmod, ih init (by simpa using h)]

end Bytes

end CallGuard
