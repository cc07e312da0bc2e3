import CallGuard.Json
import CallGuard.Octets

/-! # Reading data out of JSON values

A record is stored as an object, whose fields may come in any order among others that mean nothing, or as the array of
its fields in their order. Byte strings of fixed length are stored as hexadecimal strings or as arrays of numbers. -/

namespace CallGuard

namespace Json

/-- The text of a string. -/
def text? : Json → Option String
  | .string text => text
  | _ => none

/-- A natural number below a bound. -/
def natural? (bound : Nat) : Json → Option Nat
  | .number x => x.natural?.filter (· < bound)
  | _ => none

/-- The items of an array. -/
def items? : Json → Option (List Json)
  | .array items => some items
  | _ => none

/-- The items of an array, each read in the same way. -/
def list? {α : Type} (read : Json → Option α) (v : Json) : Option (List α) := do
  (← v.items?).mapM read

/-- The fields of a record: the value of each name that is given. -/
abbrev Fields := String → Option Json

/-- The record with these names of fields that a value stores. The name of every field of an object must have a text,
    and none of the names of the record may come twice; an array must not be longer than the names. -/
def fields? (names : List String) : Json → Option Fields
  | .object fields =>
    if fields.all (·.1.isSome) && names.all (fun name => fields.countP (·.1 == some name) ≤ 1) then
      some fun name => (fields.find? (·.1 == some name)).map (·.2)
    else none
  | .array items =>
    if items.length ≤ names.length then some fun name => items[names.idxOf name]? else none
  | _ => none

/-- A field that must be there. -/
def Fields.required {α : Type} (fields : Fields) (name : String) (read : Json → Option α) : Option α := do
  read (← fields name)

/-- A field that stands for a default where it is missing. -/
def Fields.optional {α : Type} (fields : Fields) (name : String) (default : α) (read : Json → Option α) : Option α :=
  match fields name with
  | some v => read v
  | none => some default

mutual

/-- Whether every string and name in a value has a text, every number is in the range of floats, and containers are
    nested no deeper than `room`. -/
def isPlain (room : Nat) : Json → Bool
  | .null => true
  | .bool _ => true
  | .number x => x.isFinite
  | .string text => text.isSome
  | .array items => 0 < room && arePlain (room - 1) items
  | .object fields => 0 < room && haveNamesAndPlain (room - 1) fields

/-- Whether all items are plain. -/
def arePlain (room : Nat) : List Json → Bool
  | [] => true
  | v :: rest => isPlain room v && arePlain room rest

/-- Whether all fields have names with a text and plain values. -/
def haveNamesAndPlain (room : Nat) : List (Option String × Json) → Bool
  | [] => true
  | (name, v) :: rest => name.isSome && isPlain room v && haveNamesAndPlain room rest

end

end Json

namespace Octets

/-- The byte string of `n` bytes that a value stores: a hexadecimal string, or an array of numbers below 256. -/
def ofJson? (n : Nat) : Json → Option (Octets n)
  | .string text => do (read n (← text)).toOption
  | .array items => do ofBytes? n ((← items.mapM (Json.natural? 256)).map UInt8.ofNat)
  | _ => none

/-- The byte string as a lowercase hexadecimal string. -/
def toJson {n : Nat} (a : Octets n) : Json := .ofText a.toHex

end Octets

end CallGuard
