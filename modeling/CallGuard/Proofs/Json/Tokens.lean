import CallGuard.Json.Parse

/-! # The tokens of a value

The tokens that write a value, and what putting them together gives: the value itself, in every place where a value can
stand and whatever follows (`foldlM_tokens`). -/

namespace CallGuard.Json

mutual

/-- The tokens of a value. -/
def tokens : Json → List Token
  | .null => [.null]
  | .bool b => [.bool b]
  | .number x => [.number x]
  | .string text => [.string text]
  | .array [] => [.beginArray, .endArray]
  | .array (v :: rest) => .beginArray :: (tokens v ++ (tokensOfItems rest ++ [.endArray]))
  | .object [] => [.beginObject, .endObject]
  | .object ((name, v) :: rest) =>
    .beginObject :: .string name :: .colon :: (tokens v ++ (tokensOfFields rest ++ [.endObject]))

/-- The tokens of items behind the first. -/
def tokensOfItems : List Json → List Token
  | [] => []
  | v :: rest => .comma :: (tokens v ++ tokensOfItems rest)

/-- The tokens of fields behind the first. -/
def tokensOfFields : List (Option String × Json) → List Token
  | [] => []
  | (name, v) :: rest => .comma :: .string name :: .colon :: (tokens v ++ tokensOfFields rest)

end

/-- A value can come next, within these layers. At the start of an array its end can come as well. -/
def Progress.Awaits (p : Progress) (layers : List Layer) : Prop :=
  ∀ token, token ≠ .endArray → p.step token = Progress.beginValue layers token

namespace Progress

theorem awaits_value (layers : List Layer) : (Progress.value layers).Awaits layers :=
  fun _ _ => rfl

theorem awaits_firstItem (layers : List Layer) : (Progress.firstItem layers).Awaits (.items [] :: layers) := by
  intro token h
  cases token <;> first | rfl | exact absurd rfl h

end Progress

theorem foldlM_cons {p q : Progress} {token : Token} (h : p.step token = some q) (rest : List Token) :
    (token :: rest).foldlM Progress.step p = rest.foldlM Progress.step q := by
  rw [List.foldlM_cons, h]
  rfl

theorem Progress.Awaits.foldlM_cons {p q : Progress} {layers : List Layer} (hp : p.Awaits layers) {token : Token}
    (hne : token ≠ .endArray) (hq : Progress.beginValue layers token = some q) (rest : List Token) :
    (token :: rest).foldlM Progress.step p = rest.foldlM Progress.step q :=
  Json.foldlM_cons ((hp token hne).trans hq) rest

mutual

/-- The tokens of a value are put together to the value wherever one is awaited, whatever follows. -/
theorem foldlM_tokens {layers : List Layer} (v : Json) {p : Progress} (hp : p.Awaits layers) (after : List Token) :
    (tokens v ++ after).foldlM Progress.step p = after.foldlM Progress.step (.complete layers v) := by
  cases v with
  | null => exact hp.foldlM_cons Token.noConfusion rfl after
  | bool b => exact hp.foldlM_cons Token.noConfusion rfl after
  | number x => exact hp.foldlM_cons Token.noConfusion rfl after
  | string text => exact hp.foldlM_cons Token.noConfusion rfl after
  | array items =>
    cases items with
    | nil =>
      rw [tokens, List.cons_append, hp.foldlM_cons Token.noConfusion rfl, List.singleton_append]
      exact foldlM_cons rfl after
    | cons v rest =>
      rw [tokens, List.cons_append, hp.foldlM_cons Token.noConfusion rfl, List.append_assoc,
        foldlM_tokens v (Progress.awaits_firstItem layers), List.append_assoc]
      exact foldlM_tokensOfItems rest v [] after
  | object fields =>
    cases fields with
    | nil =>
      rw [tokens, List.cons_append, hp.foldlM_cons Token.noConfusion rfl, List.singleton_append]
      exact foldlM_cons rfl after
    | cons field rest =>
      obtain ⟨name, v⟩ := field
      rw [tokens, List.cons_append, hp.foldlM_cons Token.noConfusion rfl, List.cons_append, foldlM_cons rfl,
        List.cons_append, foldlM_cons rfl, List.append_assoc, foldlM_tokens v (Progress.awaits_value _),
        List.append_assoc]
      exact foldlM_tokensOfFields rest name v [] after

theorem foldlM_tokensOfItems {layers : List Layer} (items : List Json) (v : Json) (soFar : List Json)
    (after : List Token) :
    (tokensOfItems items ++ .endArray :: after).foldlM Progress.step (.complete (.items soFar :: layers) v) =
      after.foldlM Progress.step (.complete layers (.array ((v :: soFar).reverse ++ items))) := by
  cases items with
  | nil =>
    rw [List.append_nil]
    exact foldlM_cons rfl after
  | cons w rest =>
    have hlist : (v :: soFar).reverse ++ w :: rest = (w :: v :: soFar).reverse ++ rest := by simp
    rw [tokensOfItems, List.cons_append, foldlM_cons rfl, List.append_assoc, foldlM_tokens w (Progress.awaits_value _),
      hlist]
    exact foldlM_tokensOfItems rest w (v :: soFar) after

theorem foldlM_tokensOfFields {layers : List Layer} (fields : List (Option String × Json)) (name : Option String)
    (v : Json) (soFar : List (Option String × Json)) (after : List Token) :
    (tokensOfFields fields ++ .endObject :: after).foldlM Progress.step (.complete (.fields soFar name :: layers) v) =
      after.foldlM Progress.step (.complete layers (.object (((name, v) :: soFar).reverse ++ fields))) := by
  cases fields with
  | nil =>
    rw [List.append_nil]
    exact foldlM_cons rfl after
  | cons field rest =>
    obtain ⟨next, w⟩ := field
    have hlist : ((name, v) :: soFar).reverse ++ (next, w) :: rest =
        ((next, w) :: (name, v) :: soFar).reverse ++ rest := by simp
    rw [tokensOfFields, List.cons_append, foldlM_cons rfl, List.cons_append, foldlM_cons rfl, List.cons_append,
      foldlM_cons rfl, List.append_assoc, foldlM_tokens w (Progress.awaits_value _), hlist]
    exact foldlM_tokensOfFields rest next w ((name, v) :: soFar) after

end

theorem ofTokens?_tokens (v : Json) : ofTokens? (tokens v) = some v := by
  have h := foldlM_tokens v (Progress.awaits_value []) []
  rw [List.append_nil] at h
  rw [ofTokens?, h]
  rfl

end CallGuard.Json
