/-! # Reading text

Steps that take parts off the front of a text, one after the other. A step that fails takes nothing back by itself;
`attempt` does. -/

namespace CallGuard

/-- A step of reading: it takes a part off a text, or fails. -/
abbrev Reading := StateT (List Char) Option

namespace Reading

/-- The next character, which stays where it is. -/
def peek? : Reading (Option Char) := do
  return (← get).head?

/-- Takes a character. -/
def next : Reading Char := do
  match ← get with
  | c :: rest =>
    set rest
    return c
  | [] => failure

/-- Takes one given character. -/
def literal (c : Char) : Reading Unit := do
  if (← next) ≠ c then failure

/-- Takes the characters at the front that have a property. -/
def takeWhile (p : Char → Bool) : Reading (List Char) := do
  let text ← get
  set (text.dropWhile p)
  return text.takeWhile p

/-- Takes at least one character with a property. -/
def takeSome (p : Char → Bool) : Reading (List Char) := do
  let run ← takeWhile p
  if run.isEmpty then failure
  return run

/-- Takes at least one and at most `most` characters with a property. -/
def takeAtMost (most : Nat) (p : Char → Bool) : Reading (List Char) := do
  let text ← get
  let run := (text.take most).takeWhile p
  if run.isEmpty then failure
  set (text.drop run.length)
  return run

/-- Takes exactly `count` characters, all with a property. -/
def takeExactly (count : Nat) (p : Char → Bool) : Reading (List Char) := do
  let run ← takeAtMost count p
  if run.length ≠ count then failure
  return run

/-- Takes a given text if it stands at the front, and tells whether it did. -/
def takeIf (part : List Char) : Reading Bool := do
  let text ← get
  if text.take part.length = part then
    set (text.drop part.length)
    return true
  else return false

/-- Makes a step if it succeeds; where it fails nothing is taken. -/
def attempt {α : Type} (step : Reading α) : Reading (Option α) := do
  let text ← get
  match step text with
  | some (a, rest) =>
    set rest
    return some a
  | none => return none

/-- Whether nothing is left. -/
def isDone : Reading Bool := do
  return (← get).isEmpty

/-- Makes steps until one gives nothing; each gives its results, and there are at most `fuel` of them. -/
def collect {α : Type} (step : Reading (Option α)) : (fuel : Nat) → Reading (List α)
  | 0 => return []
  | fuel + 1 => do
    match ← step with
    | some a => return a :: (← collect step fuel)
    | none => return []

/-- Makes steps, each of which takes something, until one gives nothing. -/
def many {α : Type} (step : Reading (Option α)) : Reading (List α) := do
  collect step ((← get).length + 1)

/-- What a step makes of a whole text. -/
def whole? {α : Type} (step : Reading α) (text : List Char) : Option α := do
  let (a, rest) ← step text
  if rest.isEmpty then some a else none

end Reading

end CallGuard
