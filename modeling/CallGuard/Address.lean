import CallGuard.Keccak

/-! # Addresses and selectors

An address names an account by 20 bytes, a selector a function by 4. The checksummed text of an address carries a check
in the case of its letters; reading an address ignores the case, so every spelling of an address reads alike. -/

namespace CallGuard

/-- An account on the chain. -/
abbrev Address := Octets 20

/-- The first four bytes of a payload, which name the function called. -/
abbrev Selector := Octets 4

namespace Address

/-- The address that a text writes. -/
def read (text : String) : Except Hex.Fault Address :=
  Octets.read 20 text

/-- The 40 lowercase digits of an address. -/
def digits (a : Address) : List Char :=
  Hex.encode a.bytes

/-- A digit in the case that a digit of the digest asks for: a letter is a capital one from 8 on. -/
def withCase (digit digest : Char) : Char :=
  if '8' ≤ digest then digit.toUpper else digit

/-- The address behind `0x`, the case of each letter taken from the digest of its lowercase digits. -/
def checksum (a : Address) : String :=
  let digest := Hex.encode (keccak256 (Bytes.ofChars a.digits)).bytes
  String.ofList ('0' :: 'x' :: List.zipWith withCase a.digits digest)

end Address

namespace Selector

/-- The selector that a text writes. -/
def read (text : String) : Except Hex.Fault Selector :=
  Octets.read 4 text

/-- The selector of a function signature: the first four bytes of its digest. -/
def ofSignature (signature : String) : Selector :=
  let digest := keccak256 (Bytes.ofText signature)
  ⟨digest.bytes.take 4, by simp [digest.length_bytes]⟩

end Selector

end CallGuard
