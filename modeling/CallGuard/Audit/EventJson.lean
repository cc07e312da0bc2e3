import CallGuard.Audit.Event
import CallGuard.Json.Parse
import CallGuard.Json.Print
import CallGuard.Policy.KeyJson
import CallGuard.Timestamp.Text

/-! # Stored events

An event is stored as a record in one line of text. A file of events holds a line for each. -/

namespace CallGuard

/-- The change that a value stores: its tag, or an object of that one name with no value. -/
def Change.ofJson? : Json → Option Change
  | .object [(some tag, .null)] => ofTag? tag
  | v => do ofTag? (← v.text?)

namespace Event

/-- An event as a stored record. -/
def toJson (e : Event) : Json :=
  .ofFields [("seq", .ofNat e.seq), ("event", .ofText e.name), ("action", .ofText e.change.tag),
    ("key", e.key.toJson), ("note", .ofText e.note), ("at", .ofText e.time.text)]

/-- The event that a value stores; its number is below `2 ^ 64`. -/
def ofJson? (v : Json) : Option Event := do
  let fields ← v.fields? ["seq", "event", "action", "key", "note", "at"]
  return {
    seq := ← fields.required "seq" (Json.natural? UInt64.size)
    name := ← fields.required "event" Json.text?
    change := ← fields.required "action" Change.ofJson?
    key := ← fields.required "key" (Key.ofJson? (Key.nestingLimit - 1))
    note := ← fields.required "note" Json.text?
    time := ← fields.required "at" fun v => do Timestamp.read? (← v.text?) }

/-- An event as one line of text, without the end of the line. -/
def text (e : Event) : String := e.toJson.compactText

/-- The event that a text stores. -/
def read? (text : String) : Option Event := do ofJson? (← Json.parse? text)

/-- Events as lines of text. -/
def linesOf (events : List Event) : String :=
  String.join (events.map fun e => e.text ++ "\n")

end Event

end CallGuard
