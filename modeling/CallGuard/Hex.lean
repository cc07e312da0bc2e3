import CallGuard.Bytes
import CallGuard.Text.Blank
import CallGuard.Text.Digit
import CallGuard.Text.Quoted

/-! # Hexadecimal text

Byte strings written as two digits a byte. Writing uses lowercase digits; reading takes digits in any case after at most
one leading `0x`, and names the first fault: an odd number of digits, then a wrong length where the length is fixed,
then the first byte that is no digit. -/

namespace CallGuard

namespace Hex

/-- Why a text is not the hexadecimal form of a byte string. -/
inductive Fault where
  /-- The digits do not pair up. -/
  | oddLength
  /-- The digits pair up but are too many or too few for the length asked for. -/
  | wrongLength
  /-- A byte of the text, at this position behind the leading `0x`, is no digit. -/
  | badDigit (byte : UInt8) (position : Nat)
  deriving DecidableEq, Repr

/-- The wording of a fault; a byte that is no digit is shown as the character of its number. -/
def Fault.message : Fault → String
  | .oddLength => "odd number of digits"
  | .wrongLength => "invalid string length"
  | .badDigit byte position =>
    "invalid character " ++ quotedChar (Char.ofNat byte.toNat) ++ " at position " ++ toString position

/-- The two lowercase digits of a byte. -/
def digits (b : UInt8) : List Char :=
  [Nat.digitChar (b.toNat / 16), Nat.digitChar (b.toNat % 16)]

/-- A byte string in lowercase digits. -/
def encode (bs : Bytes) : List Char :=
  bs.flatMap digits

/-- A byte string in lowercase digits behind `0x`. -/
def encodeMarked (bs : Bytes) : List Char :=
  '0' :: 'x' :: encode bs

/-- The value of a digit in either case, given by its byte. -/
def value? (b : UInt8) : Option Nat :=
  digitBelow? 16 (Char.ofNat b.toNat)

/-- The bytes that pairs of digits write, the first digit standing at `position`. -/
def decodePairs (position : Nat) : Bytes → Except Fault Bytes
  | [] => .ok []
  | [_] => .error .oddLength
  | high :: low :: rest =>
    match value? high, value? low with
    | none, _ => .error (.badDigit high position)
    | some _, none => .error (.badDigit low (position + 1))
    | some h, some l => (decodePairs (position + 2) rest).map (UInt8.ofNat (16 * h + l) :: ·)

/-- A text without the one `0x` it may start with. -/
def unmark : List Char → List Char
  | '0' :: 'x' :: rest => rest
  | cs => cs

/-- The byte string that a text writes. -/
def decode (cs : List Char) : Except Fault Bytes :=
  let text := Bytes.ofChars (unmark cs)
  if text.length % 2 = 1 then .error .oddLength else decodePairs 0 text

/-- The byte string of `size` bytes that a text writes. -/
def decodeExactly (size : Nat) (cs : List Char) : Except Fault Bytes :=
  let text := Bytes.ofChars (unmark cs)
  if text.length % 2 = 1 then .error .oddLength
  else if text.length ≠ 2 * size then .error .wrongLength
  else decodePairs 0 text

theorem length_of_decodePairs {position : Nat} {text bs : Bytes} (h : decodePairs position text = .ok bs) :
    text.length = 2 * bs.length := by
  fun_induction decodePairs position text generalizing bs with
  | case1 => simp_all
  | case2 => simp at h
  | case3 => simp at h
  | case4 => simp at h
  | case5 position high low rest h' l' _ _ ih =>
    cases hrest : decodePairs (position + 2) rest with
    | error e => simp [hrest, Except.map] at h
    | ok cs =>
      simp only [hrest, Except.map, Except.ok.injEq] at h
      subst h
      simp [ih hrest, Nat.mul_add]

theorem length_of_decodeExactly {size : Nat} {cs : List Char} {bs : Bytes} (h : decodeExactly size cs = .ok bs) :
    bs.length = size := by
  simp only [decodeExactly] at h
  split at h
  · simp at h
  · split at h
    · simp at h
    · have := length_of_decodePairs h
      omega

end Hex

end CallGuard
