import CallGuard.Hex

/-! # Byte strings of fixed length

`Octets n` holds exactly `n` bytes. Its texts are the hexadecimal ones of that length. -/

namespace CallGuard

/-- A byte string of `n` bytes. -/
structure Octets (n : Nat) where
  /-- The bytes in order. -/
  bytes : Bytes
  /-- There are `n` of them. -/
  length_bytes : bytes.length = n
  deriving DecidableEq

namespace Octets

variable {n : Nat}

@[ext] theorem ext {a b : Octets n} (h : a.bytes = b.bytes) : a = b := by
  cases a
  cases b
  simp_all

/-- The byte string as `n` bytes, if it has that length. -/
def ofBytes? (n : Nat) (bs : Bytes) : Option (Octets n) :=
  if h : bs.length = n then some ⟨bs, h⟩ else none

/-- The low `n` bytes of a number, in big-endian order. -/
def ofNat (n k : Nat) : Octets n :=
  ⟨Bytes.ofNat n k, Bytes.length_ofNat n k⟩

/-- The number that the bytes write in big-endian order. -/
def toNat (a : Octets n) : Nat :=
  Bytes.toNat a.bytes

/-- The byte strings of `n` bytes that a text writes in hexadecimal. -/
def read (n : Nat) (text : String) : Except Hex.Fault (Octets n) :=
  match h : Hex.decodeExactly n text.toList with
  | .ok bs => .ok ⟨bs, Hex.length_of_decodeExactly h⟩
  | .error fault => .error fault

/-- The bytes in lowercase hexadecimal behind `0x`. -/
def toHex (a : Octets n) : String :=
  String.ofList (Hex.encodeMarked a.bytes)

end Octets

end CallGuard
