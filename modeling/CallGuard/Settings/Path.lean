import CallGuard.Decimal.Digits
import CallGuard.Settings.Tree
import CallGuard.Text.Reading

/-! # Paths to settings

Where a setting is put: the name of a part, followed by names of parts within it, each behind a dot, and numbers of
items in square brackets. What is missing on the way is made, and what stands in the way is replaced. -/

namespace CallGuard

namespace Setting

/-- A step into a table or into a list; a negative number counts from the end of the list. -/
inductive Step where
  | part (name : String)
  | item (number : Int)
  deriving DecidableEq, Repr

/-- The name of a part of the whole tree, and the steps from there. -/
structure Path where
  head : String
  steps : List Step
  deriving DecidableEq, Repr

namespace Path

open Reading

/-- Takes a name, which has letters, digits, spaces, underscores and hyphens. -/
def name : Reading String := do
  return String.ofList (← takeSome fun c => c.isAlphanum || c = ' ' || c = '_' || c = '-')

/-- Leaves out spaces and tabs. -/
def skipSpace : Reading Unit := do
  let _ ← takeWhile fun c => c = ' ' || c = '\t'

/-- Takes a number of 64 bits with an optional minus, and the space around it. -/
def number : Reading Int := do
  skipSpace
  let n ← Decimal.signed64? (← takeIf ['-']) (Decimal.value (← takeSome Char.isDigit))
  skipSpace
  return n

/-- Takes a step, if anything is left. -/
def step : Reading (Option Step) := do
  if ← isDone then return none
  match ← next with
  | '.' => return some (.part (← name))
  | '[' =>
    let n ← number
    literal ']'
    return some (.item n)
  | _ => failure

/-- Takes a whole path. -/
def path : Reading Path := do
  return ⟨← name, ← many step⟩

/-- The path that a text writes. A text that writes none is the name of a part as it stands. -/
def ofText (text : String) : Path :=
  (whole? path text.toList).getD ⟨text, []⟩

end Path

/-- The place in a list that a number stands for. -/
def place (number : Int) (length : Nat) : Nat :=
  if number < 0 then length - number.natAbs else number.toNat

/-- The items with one changed, the list made long enough for it. -/
def changeItem (f : Setting → Setting) (number : Int) (items : List Setting) : List Setting :=
  let i := place number items.length
  let items := items ++ List.replicate (i + 1 - items.length) .absent
  items.modify i f

/-- Puts a value at the end of steps. -/
def putAt (v : Setting) (target : Setting) : List Step → Setting
  | [] => v
  | [.part name] => .table (put target.entries name v)
  | .part name :: rest =>
    let name := lowercase name
    let inner := (target.entries.get? name).getD .absent
    .table (target.entries.set name (putAt v inner rest))
  | .item number :: rest => .list (changeItem (fun inner => putAt v inner rest) number target.items)

/-- Puts a value at the end of a path. -/
def putPath (target : Entries) (path : Path) (v : Setting) : Entries :=
  (putAt v (.table target) (.part path.head :: path.steps)).entries

/-- Puts the parts of a source, whose names are paths. -/
def putSource (target source : Entries) : Entries :=
  source.foldl (fun target (name, v) => putPath target (.ofText name) v) target

end Setting

end CallGuard
