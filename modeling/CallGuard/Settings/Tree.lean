import CallGuard.Toml.Tree

/-! # Trees of settings

Settings from different sources are put together in one tree of named parts. Names are told apart without regard to
case. A table is put into the table that is there part by part; anything else takes the place of what is there. -/

namespace CallGuard

/-- A value among the settings, or a table of them. -/
inductive Setting where
  /-- The place of an item that no source gives. -/
  | absent
  | text (s : String)
  | integer (n : Int)
  | float (x : Binary64)
  | boolean (b : Bool)
  | list (items : List Setting)
  | table (entries : List (String × Setting))

/-- A name in lowercase; besides the letters of ASCII only the Kelvin sign has a letter of ASCII for its lowercase. -/
def lowercase (name : String) : String :=
  String.ofList (name.toList.map fun c => if c.toNat = 0x212A then 'k' else c.toLower)

namespace Setting

/-- Named parts. -/
abbrev Entries := List (String × Setting)

/-- The part of a name. -/
def Entries.get? (entries : Entries) (name : String) : Option Setting :=
  (entries.find? (·.1 = name)).map (·.2)

/-- The parts with the given one under that name. -/
def Entries.set : (entries : Entries) → (name : String) → Setting → Entries
  | [], name, v => [(name, v)]
  | (n, old) :: rest, name, v => if n = name then (name, v) :: rest else (n, old) :: set rest name v

theorem Entries.get?_set (entries : Entries) (name other : String) (v : Setting) :
    (entries.set name v).get? other = if other = name then some v else entries.get? other := by
  induction entries with
  | nil =>
    by_cases h : other = name
    · simp [Entries.set, Entries.get?, h]
    · simp [Entries.set, Entries.get?, h, Ne.symm h]
  | cons entry rest ih =>
    obtain ⟨n, old⟩ := entry
    simp only [Entries.get?] at ih
    by_cases hn : n = name
    · subst hn
      by_cases h : other = n
      · simp [Entries.set, Entries.get?, h]
      · simp [Entries.set, Entries.get?, h, Ne.symm h]
    · by_cases h : n = other
      · subst h
        simp [Entries.set, Entries.get?, hn]
      · simp [Entries.set, Entries.get?, hn, h, ih]

/-- The parts of a table; anything else has none. -/
def entries : Setting → Entries
  | .table entries => entries
  | _ => []

/-- The items of a list; anything else has none. -/
def items : Setting → List Setting
  | .list items => items
  | _ => []

mutual

/-- The parts with one more, given by its name in any case. -/
def put (target : Entries) (name : String) : Setting → Entries
  | .table incoming => target.set (lowercase name) (putAll ((target.get? (lowercase name)).getD (.table [])) incoming)
  | v => target.set (lowercase name) v

/-- What is there with more parts. -/
def putAll (target : Setting) : List (String × Setting) → Setting
  | [] => target
  | (name, v) :: rest => putAll (.table (put target.entries name v)) rest

end

mutual

/-- The setting of a part of a document. -/
def ofToml : Toml.Node → Setting
  | .text s => .text s
  | .integer n => .integer n
  | .float x => .float x
  | .boolean b => .boolean b
  | .list items => .list (ofTomlItems items)
  | .table _ entries => .table (ofTomlEntries entries)
  | .tables last before => .list (ofTomlTables [.table (ofTomlEntries last)] before)

/-- The settings of items. -/
def ofTomlItems : List Toml.Node → List Setting
  | [] => []
  | v :: rest => ofToml v :: ofTomlItems rest

/-- The settings of the parts of a table. -/
def ofTomlEntries : List (String × Toml.Node) → List (String × Setting)
  | [] => []
  | (name, v) :: rest => (name, ofToml v) :: ofTomlEntries rest

/-- The settings of repeated tables, the last one first, in front of those that follow them. -/
def ofTomlTables (behind : List Setting) : List (List (String × Toml.Node)) → List Setting
  | [] => behind
  | entries :: before => ofTomlTables (.table (ofTomlEntries entries) :: behind) before

end

end Setting

end CallGuard
