import CallGuard.Json
import CallGuard.Text.Digit

/-! # JSON tokens

A JSON text is cut into tokens character by character. Numbers and the words `null`, `true` and `false` are cut as the
longest runs of characters that can stand in them. -/

namespace CallGuard

namespace Json

/-- A piece of a JSON text. -/
inductive Token where
  | beginArray
  | endArray
  | beginObject
  | endObject
  | comma
  | colon
  | null
  | bool (b : Bool)
  | number (x : Number)
  | string (text : Option String)
  deriving DecidableEq, Repr

/-- A part of a string: a character, or a code unit of UTF-16 given by its number. -/
inductive Piece where
  | char (c : Char)
  | unit (n : Nat)
  deriving DecidableEq, Repr

namespace Piece

/-- The characters that parts of a string make up, if every surrogate is one of a pair. -/
def chars? : List Piece → Option (List Char)
  | [] => some []
  | .char c :: rest => (c :: ·) <$> chars? rest
  | .unit n :: rest =>
    if n < 0xD800 ∨ 0xE000 ≤ n then (Char.ofNat n :: ·) <$> chars? rest
    else if 0xDC00 ≤ n then none
    else
      match rest with
      | .unit low :: rest' =>
        if 0xDC00 ≤ low ∧ low < 0xE000 then
          (Char.ofNat (0x10000 + (n - 0xD800) * 0x400 + (low - 0xDC00)) :: ·) <$> chars? rest'
        else none
      | _ => none

end Piece

/-- The digits at the start of a text, at least one, and what follows them. -/
def takeDigits? (cs : List Char) : Option (List Char × List Char) :=
  let digits := cs.takeWhile Char.isDigit
  if digits = [] then none else some (digits, cs.dropWhile Char.isDigit)

/-- The fraction at the start of a text, if there is one, and what follows it. -/
def takeFraction? : List Char → Option (List Char × List Char)
  | '.' :: rest => takeDigits? rest
  | cs => some ([], cs)

/-- The exponent that a whole text writes, if it is not empty. -/
def exponent? : List Char → Option (Option Int)
  | [] => some none
  | c :: rest => do
    if c ≠ 'e' ∧ c ≠ 'E' then none
    let (sign, rest) : Int × List Char :=
      match rest with
      | '-' :: r => (-1, r)
      | '+' :: r => (1, r)
      | r => (1, r)
    let (digits, rest) ← takeDigits? rest
    if rest = [] then some (some (sign * Decimal.value digits)) else none

/-- The number that a word writes: digits without needless zeros in front, with an optional sign, fraction and
    exponent. -/
def Number.ofWord? (word : List Char) : Option Number := do
  let (negative, rest) :=
    match word with
    | '-' :: r => (true, r)
    | r => (false, r)
  let (whole, rest) ← takeDigits? rest
  if whole.head? = some '0' ∧ whole ≠ ['0'] then none
  let (fraction, rest) ← takeFraction? rest
  let exponent ← exponent? rest
  return ⟨negative, Decimal.value whole, fraction, exponent⟩

namespace Token

/-- The token of a word. -/
def ofWord? (word : List Char) : Option Token :=
  if word = ['n', 'u', 'l', 'l'] then some .null
  else if word = ['t', 'r', 'u', 'e'] then some (.bool true)
  else if word = ['f', 'a', 'l', 's', 'e'] then some (.bool false)
  else .number <$> Number.ofWord? word

/-- Where in a text the cutting into tokens stands; what is being read is held last character first. -/
inductive Mode where
  /-- Between tokens. -/
  | outside
  /-- In a word. -/
  | word (done : List Char)
  /-- In a string. -/
  | string (done : List Piece)
  /-- In a string, behind a backslash. -/
  | escape (done : List Piece)
  /-- In a string, behind `\u` and so many digits of this value. -/
  | unit (done : List Piece) (digits value : Nat)
  deriving DecidableEq, Repr

/-- The mode, and the tokens cut off so far, the last one first. -/
structure Cut where
  mode : Mode
  tokens : List Token
  deriving DecidableEq, Repr

/-- Whether a character can stand in a word. -/
def isWordChar (c : Char) : Bool :=
  c.isAlphanum || c = '-' || c = '+' || c = '.'

/-- Whether a character can stand between tokens and means nothing. -/
def isGap (c : Char) : Bool :=
  c = ' ' || c = '\n' || c = '\t' || c = '\r'

/-- The token that is one character. -/
def ofMark? : Char → Option Token
  | '[' => some .beginArray
  | ']' => some .endArray
  | '\x7b' => some .beginObject
  | '\x7d' => some .endObject
  | ',' => some .comma
  | ':' => some .colon
  | _ => none

/-- The character that a backslash before this one writes. -/
def ofEscape? : Char → Option Char
  | '"' => some '"'
  | '\\' => some '\\'
  | '/' => some '/'
  | 'b' => some (Char.ofNat 8)
  | 'f' => some (Char.ofNat 12)
  | 'n' => some '\n'
  | 'r' => some '\r'
  | 't' => some '\t'
  | _ => none

/-- Goes over a character between tokens. -/
def stepOutside (tokens : List Token) (c : Char) : Option Cut :=
  if isGap c then some ⟨.outside, tokens⟩
  else if c = '"' then some ⟨.string [], tokens⟩
  else if isWordChar c then some ⟨.word [c], tokens⟩
  else (fun token => ⟨.outside, token :: tokens⟩) <$> ofMark? c

/-- Goes over one character. -/
def step (cut : Cut) (c : Char) : Option Cut :=
  match cut.mode with
  | .outside => stepOutside cut.tokens c
  | .word done =>
    if isWordChar c then some { cut with mode := .word (c :: done) }
    else do
      let token ← ofWord? done.reverse
      stepOutside (token :: cut.tokens) c
  | .string done =>
    if c = '"' then
      some ⟨.outside, .string ((Piece.chars? done.reverse).map String.ofList) :: cut.tokens⟩
    else if c = '\\' then some { cut with mode := .escape done }
    else if c.toNat < 32 then none
    else some { cut with mode := .string (.char c :: done) }
  | .escape done =>
    if c = 'u' then some { cut with mode := .unit done 0 0 }
    else (fun d => { cut with mode := .string (.char d :: done) }) <$> ofEscape? c
  | .unit done digits value => do
    let digit ← digitBelow? 16 c
    let value := 16 * value + digit
    if digits = 3 then some { cut with mode := .string (.unit value :: done) }
    else some { cut with mode := .unit done (digits + 1) value }

/-- The tokens at the end of a text, if no string is left open. -/
def finish (cut : Cut) : Option (List Token) :=
  match cut.mode with
  | .outside => some cut.tokens.reverse
  | .word done => (fun token => (token :: cut.tokens).reverse) <$> ofWord? done.reverse
  | _ => none

/-- The tokens of a text. -/
def scan? (text : List Char) : Option (List Token) := do
  finish (← text.foldlM step ⟨.outside, []⟩)

end Token

end Json

end CallGuard
