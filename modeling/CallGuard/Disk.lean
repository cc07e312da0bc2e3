/-! # Disks

The files and folders below a working folder, and what happens to a path that is looked up, read, written or appended
to. A path is followed name by name; everything on the way must be a folder.

The working folder is the root of the disk: a path that begins with a slash is followed from there as well, and `..`
does not lead out of it. Files hold text. One whose bytes are no UTF-8 has no place on a disk; reading it is a failure of
the operating system like any other. -/

namespace CallGuard

/-- A failure that the operating system reports: its text, and its number if it has one. -/
structure OsFault where
  text : String
  code : Option Nat
  deriving DecidableEq, Repr

namespace OsFault

/-- The wording of a failure. -/
def message (fault : OsFault) : String :=
  match fault.code with
  | some code => fault.text ++ " (os error " ++ toString code ++ ")"
  | none => fault.text

/-- There is nothing of that name. -/
def notFound : OsFault := ⟨"No such file or directory", some 2⟩

/-- No path holds the character zero. -/
def notPath : OsFault := ⟨"file name contained an unexpected NUL byte", none⟩

/-- There is something of that name already. -/
def alreadyThere : OsFault := ⟨"File exists", some 17⟩

/-- A file stands where a folder is asked for. -/
def notFolder : OsFault := ⟨"Not a directory", some 20⟩

/-- A folder stands where a file is asked for. -/
def isFolder : OsFault := ⟨"Is a directory", some 21⟩

end OsFault

/-- A place below the working folder: the names of the folders that lead to it, then its own. -/
abbrev Location := List String

/-- What can be at a place. -/
inductive Item where
  | folder
  | file (text : String)
  deriving DecidableEq, Repr

/-- What is at each place; the working folder itself is always there. -/
abbrev Disk := Location → Option Item

namespace Disk

/-- The disk with nothing in the working folder. -/
def empty : Disk := fun place => if place = [] then some .folder else none

/-- The disk with something put at a place. -/
def put (d : Disk) (place : Location) (item : Item) : Disk :=
  fun other => if other = place then some item else d other

/-- Asks for a folder at a place. -/
def needFolder (d : Disk) (place : Location) : Except OsFault Unit :=
  match d place with
  | some .folder => .ok ()
  | some (.file _) => .error .notFolder
  | none => .error .notFound

/-- The place that names lead to from a place; the last of them need not be there. -/
def follow (d : Disk) (place : Location) : List String → Except OsFault Location
  | [] => .ok place
  | name :: rest => do
    d.needFolder place
    follow d (if name = ".." then place.dropLast else place ++ [name]) rest

/-- The names in a path, which are the same with a slash in front of it and without one. -/
def names (path : String) : List String :=
  ((path.toList.splitOn '/').map String.ofList).filter fun name => name ≠ "" && name ≠ "."

/-- Whether a path can only name a folder. -/
def namesFolder (path : String) : Bool :=
  path.toList.getLast? = some '/'

/-- The place that a path leads to. -/
def locate (d : Disk) (path : String) : Except OsFault Location :=
  if path.contains (Char.ofNat 0) then .error .notPath
  else if path = "" then .error .notFound
  else d.follow [] (names path)

/-- What is there under a path. -/
def look (d : Disk) (path : String) : Except OsFault Item := do
  let place ← d.locate path
  match d place with
  | none => throw .notFound
  | some item => if namesFolder path ∧ item ≠ .folder then throw .notFolder else return item

/-- Whether there is anything under a path; a path that leads through a file is a failure. -/
def isPresent (d : Disk) (path : String) : Except OsFault Bool :=
  match d.look path with
  | .ok _ => .ok true
  | .error fault => if fault = .notFound then .ok false else .error fault

/-- The text of a file. -/
def read (d : Disk) (path : String) : Except OsFault String := do
  match ← d.look path with
  | .folder => throw .isFolder
  | .file text => return text

/-- The place of a file that is to be written, made if it is missing, and the text that is there. -/
def target (d : Disk) (path : String) : Except OsFault (Location × String) := do
  let place ← d.locate path
  if namesFolder path then throw .isFolder
  match d place with
  | some .folder => throw .isFolder
  | some (.file text) => return (place, text)
  | none => return (place, "")

/-- The disk with a file of a text in the place of the one that was there. -/
def write (d : Disk) (path text : String) : Except OsFault Disk := do
  let (place, _) ← d.target path
  return d.put place (.file text)

/-- The disk with a text behind the text of a file. -/
def append (d : Disk) (path text : String) : Except OsFault Disk := do
  let (place, old) ← d.target path
  return d.put place (.file (old ++ text))

/-- The disk with the folders that names lead to from a place. -/
def makeFolders (d : Disk) (place : Location) : List String → Except OsFault Disk
  | [] => .ok d
  | name :: rest =>
    let place := if name = ".." then place.dropLast else place ++ [name]
    match d place with
    | none => makeFolders (d.put place .folder) place rest
    | some .folder => makeFolders d place rest
    | some (.file _) => .error (if rest = [] then .alreadyThere else .notFolder)

/-- The disk with all folders above the last name of a path. -/
def makeParents (d : Disk) (path : String) : Except OsFault Disk :=
  d.makeFolders [] (names path).dropLast

end Disk

end CallGuard
