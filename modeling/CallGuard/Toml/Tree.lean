import CallGuard.Decimal.Binary64

/-! # TOML trees

The tables and values of a TOML document while it is read. A table remembers how it came to be, because that decides
whether a later line may add to it: no table is defined twice, and dotted keys do not reopen a table that has a header
of its own. -/

namespace CallGuard

namespace Toml

/-- How a table came to be. -/
inductive Origin where
  /-- It has a header of its own, or is the document. -/
  | header
  /-- A header of a table within it was read first. -/
  | implied
  /-- Dotted keys made it. -/
  | dotted
  /-- It was written as one value. -/
  | inline
  deriving DecidableEq, Repr

/-- A value of a document, or a table. -/
inductive Node where
  | text (s : String)
  | integer (n : Int)
  | float (x : Binary64)
  | boolean (b : Bool)
  | list (items : List Node)
  | table (origin : Origin) (entries : List (String × Node))
  /-- Tables with one header repeated, the last one first. -/
  | tables (last : List (String × Node)) (before : List (List (String × Node)))

/-- The named parts of a table, in the order in which they were read. -/
abbrev Entries := List (String × Node)

namespace Entries

/-- The part of a name. -/
def get? (entries : Entries) (name : String) : Option Node :=
  (entries.find? (·.1 = name)).map (·.2)

/-- The entries with another part in the place of the one of that name. -/
def replace (entries : Entries) (name : String) (node : Node) : Entries :=
  entries.map fun entry => if entry.1 = name then (name, node) else entry

/-- Changes the table that a path leads to; tables that are missing on the way are made. The change is told how the
    table came to be. A dotted path does not enter tables with a header of their own, and no path enters a value. -/
def change (viaDots : Bool) (f : Origin → Entries → Option Entries) (origin : Origin) (entries : Entries) :
    (path : List String) → Option Entries
  | [] => f origin entries
  | name :: rest =>
    match entries.get? name with
    | none => do
      let made : Origin := if viaDots then .dotted else .implied
      let inner ← change viaDots f made [] rest
      return entries ++ [(name, .table made inner)]
    | some (.table within inner) => do
      if within = .inline ∨ (viaDots ∧ within = .header) then none
      let inner ← change viaDots f within inner rest
      return entries.replace name (.table within inner)
    | some (.tables last before) => do
      let last ← change viaDots f .header last rest
      return entries.replace name (.tables last before)
    | some _ => none

/-- Adds a value under a dotted key. The last table on the way is the given one itself or one that dotted keys made. -/
def define (origin : Origin) (entries : Entries) (path : List String) (name : String) (node : Node) : Option Entries :=
  change true (fun within inner =>
    if (within = .dotted ↔ path = []) then none
    else if (inner.get? name).isSome then none
    else some (inner ++ [(name, node)])) origin entries path

/-- Opens the table of a header. -/
def openTable (entries : Entries) (path : List String) (name : String) : Option Entries :=
  change false (fun _ inner =>
    match inner.get? name with
    | none => some (inner ++ [(name, .table .header [])])
    | some (.table .implied within) => some (inner.replace name (.table .header within))
    | some _ => none) .header entries path

/-- Opens one more of the tables with the same header. -/
def openNextTable (entries : Entries) (path : List String) (name : String) : Option Entries :=
  change false (fun _ inner =>
    match inner.get? name with
    | none => some (inner ++ [(name, .tables [] [])])
    | some (.tables last before) => some (inner.replace name (.tables [] (last :: before)))
    | some _ => none) .header entries path

end Entries

end Toml

end CallGuard
