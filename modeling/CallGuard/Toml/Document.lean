import CallGuard.Toml.Scalar

/-! # TOML documents

A document is read expression by expression: entries, headers of tables, and headers of tables that may be repeated.
Arrays and inline tables may be nested up to a limit. -/

namespace CallGuard

namespace Toml

open Reading

/-- How deep arrays and inline tables may be nested, and how many parts a key may have. -/
def nestingLimit : Nat := 79

/-- Takes a key, an equals sign and a value. -/
def entry (value : Reading Node) : Reading (List String × String × Node) := do
  let (path, name) ← key
  if nestingLimit ≤ path.length then failure
  skipSpace
  literal '='
  skipSpace
  return (path, name, ← value)

/-- Takes the items of an array and its end; a comma may stand behind the last one. -/
def items (value : Reading Node) : Reading (List Node) := do
  let items ← many do
    skipLines
    if ← takeIf [']'] then return none
    let item ← value
    skipLines
    if !(← takeIf [',']) then
      if (← peek?) ≠ some ']' then failure
    return some item
  return items

/-- Takes the entries of an inline table and its end. -/
def inlineEntries (value : Reading Node) : Reading Entries := do
  skipSpace
  if ← takeIf ['\x7d'] then return []
  let first ← entry value
  skipSpace
  let rest ← many do
    if ← takeIf ['\x7d'] then return none
    literal ','
    skipSpace
    let e ← entry value
    skipSpace
    return some e
  StateT.lift ((first :: rest).foldlM (fun entries (path, name, node) => entries.define .inline path name node) [])

/-- Takes a value in which arrays and inline tables are nested at most `room` deep. -/
def value : (room : Nat) → Reading Node
  | 0 => scalar
  | room + 1 => do
    if ← takeIf ['['] then return .list (← items (value room))
    if ← takeIf ['\x7b'] then return .table .inline (← inlineEntries (value room))
    scalar

/-- A document while it is read: its tables, and the path of the header that entries belong to. -/
structure Draft where
  root : Entries
  current : List String

namespace Draft

/-- The document without a line. -/
def empty : Draft := ⟨[], []⟩

/-- Adds an entry under the header read last. -/
def addEntry (d : Draft) (path : List String) (name : String) (node : Node) : Option Draft := do
  let root ← d.root.change false (fun origin entries => entries.define origin path name node) .header d.current
  return { d with root := root }

end Draft

/-- Takes a header and opens its table. -/
def header (d : Draft) : Reading Draft := do
  let repeated ← takeIf ['[', '[']
  if !repeated then literal '['
  skipSpace
  let (path, name) ← key
  if nestingLimit ≤ path.length then failure
  skipSpace
  literal ']'
  if repeated then literal ']'
  let opened := if repeated then d.root.openNextTable path name else d.root.openTable path name
  return ⟨← StateT.lift opened, path ++ [name]⟩

/-- Takes one expression, which may be empty. -/
def expression (d : Draft) : Reading Draft := do
  match ← peek? with
  | some '[' => header d
  | some '#' => return d
  | some '\n' => return d
  | some '\r' => return d
  | none => return d
  | some _ =>
    let (path, name, node) ← entry (value nestingLimit)
    StateT.lift (d.addEntry path name node)

/-- Takes expressions up to the end of the document. -/
def expressions : (fuel : Nat) → Draft → Reading Draft
  | 0, d => return d
  | fuel + 1, d => do
    skipSpace
    let d ← expression d
    skipSpace
    skipComment
    if ← takeNewline then expressions fuel d
    else if ← isDone then return d
    else failure

/-- The entries of a document. -/
def parse? (text : String) : Option Entries := do
  let chars := match text.toList with
    | '\ufeff' :: rest => rest
    | chars => chars
  let d ← whole? (expressions (chars.length + 1) .empty) chars
  return d.root

end Toml

end CallGuard
