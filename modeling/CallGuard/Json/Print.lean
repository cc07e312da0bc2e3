import CallGuard.Json

/-! # Writing JSON

A value is written either in one line without gaps or with every item and field on a line of its own. Only quotes,
backslashes and control characters are escaped, so a written string never breaks a line. -/

namespace CallGuard

namespace Json

/-- A character within a string. -/
def escape (c : Char) : List Char :=
  if c = '"' then ['\\', '"']
  else if c = '\\' then ['\\', '\\']
  else if c = '\n' then ['\\', 'n']
  else if c = '\r' then ['\\', 'r']
  else if c = '\t' then ['\\', 't']
  else if c.toNat = 8 then ['\\', 'b']
  else if c.toNat = 12 then ['\\', 'f']
  else if c.toNat < 32 then
    ['\\', 'u', '0', '0', Nat.digitChar (c.toNat / 16), Nat.digitChar (c.toNat % 16)]
  else [c]

/-- A string; one without a text is written as a surrogate that stands alone. -/
def quote : Option String → List Char
  | some s => '"' :: s.toList.flatMap escape ++ ['"']
  | none => ['"', '\\', 'u', 'd', '8', '0', '0', '"']

/-- A number. -/
def Number.print (x : Number) : List Char :=
  (if x.negative then ['-'] else []) ++ Nat.toDigits 10 x.whole ++
    (if x.fraction = [] then [] else '.' :: x.fraction) ++
    match x.exponent with
    | none => []
    | some e => 'e' :: (if e < 0 then ['-'] else []) ++ Nat.toDigits 10 e.natAbs

/-- A value that holds no others. -/
def printLeaf : Json → List Char
  | .null => ['n', 'u', 'l', 'l']
  | .bool true => ['t', 'r', 'u', 'e']
  | .bool false => ['f', 'a', 'l', 's', 'e']
  | .number x => x.print
  | .string text => quote text
  | .array _ => ['[', ']']
  | .object _ => ['\x7b', '\x7d']

mutual

/-- A value in one line without gaps. -/
def compact : Json → List Char
  | .array (v :: rest) => '[' :: compact v ++ compactItems rest ++ [']']
  | .object ((name, v) :: rest) => '\x7b' :: quote name ++ ':' :: compact v ++ compactFields rest ++ ['\x7d']
  | leaf => leaf.printLeaf

/-- Items behind the first. -/
def compactItems : List Json → List Char
  | [] => []
  | v :: rest => ',' :: compact v ++ compactItems rest

/-- Fields behind the first. -/
def compactFields : List (Option String × Json) → List Char
  | [] => []
  | (name, v) :: rest => ',' :: quote name ++ ':' :: compact v ++ compactFields rest

end

/-- The start of a line so many levels deep. -/
def newLine (level : Nat) : List Char :=
  '\n' :: List.replicate (2 * level) ' '

mutual

/-- A value with every item and field on a line of its own, indented by two spaces a level. -/
def pretty (level : Nat) : Json → List Char
  | .array (v :: rest) =>
    '[' :: newLine (level + 1) ++ pretty (level + 1) v ++ prettyItems (level + 1) rest ++ newLine level ++ [']']
  | .object ((name, v) :: rest) =>
    '\x7b' :: newLine (level + 1) ++ quote name ++ ':' :: ' ' :: pretty (level + 1) v ++
      prettyFields (level + 1) rest ++ newLine level ++ ['\x7d']
  | leaf => leaf.printLeaf

/-- Items behind the first. -/
def prettyItems (level : Nat) : List Json → List Char
  | [] => []
  | v :: rest => ',' :: newLine level ++ pretty level v ++ prettyItems level rest

/-- Fields behind the first. -/
def prettyFields (level : Nat) : List (Option String × Json) → List Char
  | [] => []
  | (name, v) :: rest =>
    ',' :: newLine level ++ quote name ++ ':' :: ' ' :: pretty level v ++ prettyFields level rest

end

/-- A value as text in one line. -/
def compactText (v : Json) : String := String.ofList v.compact

/-- A value as text with every item and field on a line of its own. -/
def prettyText (v : Json) : String := String.ofList (v.pretty 0)

end Json

end CallGuard
