import CallGuard.Json.Token

/-! # Reading JSON

Tokens are put together to a value one by one. The containers that are still open are held innermost first, so nesting
can be as deep as it likes. -/

namespace CallGuard

namespace Json

/-- A container that is still open; what it holds so far is held last first. -/
inductive Layer where
  /-- An array. -/
  | items (soFar : List Json)
  /-- An object, and the name of the field whose value is being read. -/
  | fields (soFar : List (Option String × Json)) (name : Option String)

/-- What has been read, and what can come next. -/
inductive Progress where
  /-- A value must come. -/
  | value (layers : List Layer)
  /-- An array was opened: a value or its end must come. -/
  | firstItem (layers : List Layer)
  /-- An object was opened: a name or its end must come. -/
  | firstName (layers : List Layer)
  /-- A name must come. -/
  | nextName (layers : List Layer) (soFar : List (Option String × Json))
  /-- A colon must come. -/
  | colon (layers : List Layer) (soFar : List (Option String × Json)) (name : Option String)
  /-- A value was read: a comma or the end of its container must come. -/
  | complete (layers : List Layer) (v : Json)

namespace Progress

/-- Takes the first token of a value. -/
def beginValue (layers : List Layer) : Token → Option Progress
  | .null => some (.complete layers .null)
  | .bool b => some (.complete layers (.bool b))
  | .number x => some (.complete layers (.number x))
  | .string text => some (.complete layers (.string text))
  | .beginArray => some (.firstItem layers)
  | .beginObject => some (.firstName layers)
  | _ => none

/-- Takes one token. -/
def step : Progress → Token → Option Progress
  | .value layers, token => beginValue layers token
  | .firstItem layers, .endArray => some (.complete layers (.array []))
  | .firstItem layers, token => beginValue (.items [] :: layers) token
  | .firstName layers, .endObject => some (.complete layers (.object []))
  | .firstName layers, .string name => some (.colon layers [] name)
  | .nextName layers soFar, .string name => some (.colon layers soFar name)
  | .colon layers soFar name, .colon => some (.value (.fields soFar name :: layers))
  | .complete (.items soFar :: layers) v, .comma => some (.value (.items (v :: soFar) :: layers))
  | .complete (.items soFar :: layers) v, .endArray => some (.complete layers (.array (v :: soFar).reverse))
  | .complete (.fields soFar name :: layers) v, .comma => some (.nextName layers ((name, v) :: soFar))
  | .complete (.fields soFar name :: layers) v, .endObject =>
    some (.complete layers (.object ((name, v) :: soFar).reverse))
  | _, _ => none

/-- The value read, if no container is open. -/
def finish : Progress → Option Json
  | .complete [] v => some v
  | _ => none

end Progress

/-- The value that tokens write. -/
def ofTokens? (tokens : List Token) : Option Json := do
  Progress.finish (← tokens.foldlM Progress.step (.value []))

/-- The value that a text writes. -/
def parse? (text : String) : Option Json := do
  ofTokens? (← Token.scan? text.toList)

end Json

end CallGuard
