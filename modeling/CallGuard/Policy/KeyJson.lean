import CallGuard.Json.Fields
import CallGuard.Policy.Key

/-! # Stored keys

A key is stored as a record that begins with the tag of its list. -/

namespace CallGuard

/-- The names of the fields of a stored key of a list. -/
def ListKind.fieldNames : ListKind → List String
  | .callSite => ["kind", "target", "selector"]
  | _ => ["kind", "address"]

namespace Key

/-- A key as a stored record. -/
def toJson (key : Key) : Json :=
  let tag := ("kind", Json.ofText key.kind.tag)
  match key with
  | .callSite site => .ofFields [tag, ("target", site.target.toJson), ("selector", site.selector.toJson)]
  | _ => .ofFields [tag, ("address", key.address.toJson)]

/-- The tag of a stored key: the field `kind` of an object, the first item of an array. -/
def tagOf? : Json → Option String
  | .array (tag :: _) => tag.text?
  | v => do (← v.fields? ["kind"]).required "kind" Json.text?

/-- The key that a value stores; containers in the value must not be nested deeper than `room`. -/
def ofJson? (room : Nat) (v : Json) : Option Key := do
  if !v.isPlain room then none
  let kind ← ListKind.ofTag? (← tagOf? v)
  let fields ← v.fields? kind.fieldNames
  match kind with
  | .callSite =>
    return .callSite ⟨← fields.required "target" (Octets.ofJson? 20), ← fields.required "selector" (Octets.ofJson? 4)⟩
  | kind => ofAddress? kind (← fields.required "address" (Octets.ofJson? 20))

/-- How deep containers may be nested in a stored key that stands alone. -/
def nestingLimit : Nat := 127

end Key

end CallGuard
