import CallGuard.Text.Printable

/-! # Quoted text

A text between double quotes or a character between single ones, written so that every character can be seen: marks
that would end the quotation, white space other than the space, unprintable characters and characters that extend the
one before them are written as escapes. -/

namespace CallGuard

/-- The digits of a number in lowercase hexadecimal, at least one. -/
def hexDigits (n : Nat) : List Char :=
  Nat.toDigits 16 n

namespace Quoted

/-- A code point as the escape `\u` with its hexadecimal digits in braces. -/
def codePoint (c : Char) : List Char :=
  ['\\', 'u', '\x7b'] ++ hexDigits c.toNat ++ ['\x7d']

/-- One character within a quotation that ends with `mark`. -/
def char (mark c : Char) : List Char :=
  if c = mark ∨ c = '\\' then ['\\', c]
  else if c = '\t' then ['\\', 't']
  else if c = '\r' then ['\\', 'r']
  else if c = '\n' then ['\\', 'n']
  else if c.toNat = 0 then ['\\', '0']
  else if isExtender c || !isPrintable c then codePoint c
  else [c]

end Quoted

/-- A text between double quotes. -/
def quotedText (s : String) : String :=
  String.ofList (['"'] ++ s.toList.flatMap (Quoted.char '"') ++ ['"'])

/-- A character between single quotes. -/
def quotedChar (c : Char) : String :=
  let mark := Char.ofNat 39
  String.ofList ([mark] ++ Quoted.char mark c ++ [mark])

end CallGuard
