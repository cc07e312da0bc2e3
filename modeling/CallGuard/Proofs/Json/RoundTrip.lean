import CallGuard.Json.Parse
import CallGuard.Proofs.Json.Numbers
import CallGuard.Proofs.Json.Tokens

/-! # Writing and reading JSON

A value that is written in one line or over several is read back from its text (`parse?_compactText`,
`parse?_prettyText`): both texts are cut into the tokens of the value. -/

namespace CallGuard.Json

/-- A value whose numbers can be written: the fraction of each consists of digits. -/
inductive Printable : Json → Prop
  | null : Printable .null
  | bool (b : Bool) : Printable (.bool b)
  | number {x : Number} (h : ∀ c ∈ x.fraction, c.isDigit = true) : Printable (.number x)
  | string (text : Option String) : Printable (.string text)
  | array {items : List Json} (h : ∀ v ∈ items, Printable v) : Printable (.array items)
  | object {fields : List (Option String × Json)} (h : ∀ field ∈ fields, Printable field.2) : Printable (.object fields)

/-! ## Texts of tokens -/

/-- A text is cut into these tokens wherever it stands between tokens, if a word that it ends with ends there. -/
def Writes (text : List Char) (tokens : List Token) : Prop :=
  ∀ before rest, EndsWord rest →
    Token.scanFrom ⟨.outside, before⟩ (text ++ rest) = Token.scanFrom ⟨.outside, tokens.reverse ++ before⟩ rest

theorem EndsWord.append {text rest : List Char} (h : EndsWord text) (hrest : EndsWord rest) :
    EndsWord (text ++ rest) := by
  cases text with
  | nil => exact hrest
  | cons c text => exact endsWord_cons (h c rfl) _

namespace Writes
variable {text next : List Char} {tokens more : List Token}

theorem nil : Writes [] [] :=
  fun _ _ _ => rfl

theorem append (h : Writes text tokens) (hends : EndsWord next) (hnext : Writes next more) :
    Writes (text ++ next) (tokens ++ more) := by
  intro before rest hrest
  rw [List.append_assoc, h _ _ (hends.append hrest), hnext _ _ hrest, List.reverse_append, List.append_assoc]

theorem mark {c : Char} {token : Token}
    (h : ∀ before, Token.step ⟨.outside, before⟩ c = some ⟨.outside, token :: before⟩) (hnext : Writes next more) :
    Writes (c :: next) (token :: more) := by
  intro before rest hrest
  rw [List.cons_append, Token.scanFrom_cons (h before), hnext _ _ hrest, List.reverse_cons, List.append_assoc]
  rfl

theorem newLine (level : Nat) (hnext : Writes next more) : Writes (newLine level ++ next) more := by
  intro before rest hrest
  rw [List.append_assoc, Token.scanFrom_newLine, hnext _ _ hrest]

theorem space (hnext : Writes next more) : Writes (' ' :: next) more := by
  intro before rest hrest
  rw [List.cons_append, Token.scanFrom_gap _ (by decide), hnext _ _ hrest]

theorem quote (text : Option String) (hnext : Writes next more) :
    Writes (quote text ++ next) (.string text :: more) := by
  intro before rest hrest
  rw [List.append_assoc, Token.scanFrom_quote, hnext _ _ hrest, List.reverse_cons, List.append_assoc]
  rfl

theorem word {word : List Char} {token : Token} (hword : Token.ofWord? word = some token) (hne : word ≠ [])
    (hchars : ∀ c ∈ word, Token.isWordChar c = true) : Writes word [token] :=
  fun before _ hrest => Token.scanFrom_word before hword hne hchars hrest

end Writes

theorem ofWord?_print {x : Number} (h : ∀ c ∈ x.fraction, c.isDigit = true) :
    Token.ofWord? x.print = some (.number x) := by
  have hread := Number.ofWord?_print h
  have hne : ∀ word, Number.ofWord? word = none → x.print ≠ word := by
    rintro word hnone rfl
    rw [hread] at hnone
    cases hnone
  rw [Token.ofWord?, if_neg (hne _ (by decide)), if_neg (hne _ (by decide)), if_neg (hne _ (by decide)), hread]
  rfl

theorem writes_leaf {v : Json} (hv : Printable v) (harray : ∀ w rest, v ≠ .array (w :: rest))
    (hobject : ∀ field rest, v ≠ .object (field :: rest)) : Writes v.printLeaf (tokens v) := by
  cases hv with
  | null => exact .word rfl (List.cons_ne_nil _ _) (List.all_eq_true.mp rfl)
  | bool b => cases b <;> exact .word rfl (List.cons_ne_nil _ _) (List.all_eq_true.mp rfl)
  | number h => exact .word (ofWord?_print h) (Number.print_ne_nil _) fun c => Number.isWordChar_of_mem_print h
  | string text =>
    have h := Writes.quote text .nil
    rwa [List.append_nil] at h
  | @array items h =>
    cases items with
    | nil => exact .mark (fun _ => rfl) (.mark (fun _ => rfl) .nil)
    | cons w rest => exact absurd rfl (harray w rest)
  | @object fields h =>
    cases fields with
    | nil => exact .mark (fun _ => rfl) (.mark (fun _ => rfl) .nil)
    | cons field rest => exact absurd rfl (hobject field rest)

theorem Writes.parse? {text : List Char} {v : Json} (h : Writes text (tokens v)) :
    Json.parse? (String.ofList text) = some v := by
  have hscan : Token.scan? text = some (tokens v) := by
    have hfrom := h [] [] endsWord_nil
    rw [List.append_nil, List.append_nil] at hfrom
    refine hfrom.trans ?_
    show some (tokens v).reverse.reverse = _
    rw [List.reverse_reverse]
  rw [Json.parse?, String.toList_ofList, hscan]
  exact ofTokens?_tokens v

/-! ## Texts in one line -/

mutual

-- A word among the items ends where it should, because a comma or a bracket comes next.
theorem writes_compact (v : Json) (hv : Printable v) : Writes (compact v) (tokens v) := by
  cases v with
  | null => exact writes_leaf hv nofun nofun
  | bool b => exact writes_leaf hv nofun nofun
  | number x => exact writes_leaf hv nofun nofun
  | string text => exact writes_leaf hv nofun nofun
  | array items =>
    cases items with
    | nil => exact writes_leaf hv nofun nofun
    | cons w rest =>
      obtain _ | _ | _ | _ | h := hv
      simp only [compact, tokens, List.cons_append, List.append_assoc]
      refine .mark (fun _ => rfl) (.append (writes_compact w (h w List.mem_cons_self)) ?_ ?_)
      · cases rest <;> exact endsWord_cons (by decide) _
      · exact .append (writes_compactItems rest fun v hv => h v (List.mem_cons_of_mem w hv))
          (endsWord_cons (by decide) _) (.mark (fun _ => rfl) .nil)
  | object fields =>
    cases fields with
    | nil => exact writes_leaf hv nofun nofun
    | cons field rest =>
      obtain ⟨name, w⟩ := field
      obtain _ | _ | _ | _ | _ | h := hv
      simp only [compact, tokens, List.cons_append, List.append_assoc]
      refine .mark (fun _ => rfl) (.quote name (.mark (fun _ => rfl)
        (.append (writes_compact w (h (name, w) List.mem_cons_self)) ?_ ?_)))
      · cases rest <;> exact endsWord_cons (by decide) _
      · exact .append (writes_compactFields rest fun v hv => h v (List.mem_cons_of_mem (name, w) hv))
          (endsWord_cons (by decide) _) (.mark (fun _ => rfl) .nil)

theorem writes_compactItems (items : List Json) (h : ∀ v ∈ items, Printable v) :
    Writes (compactItems items) (tokensOfItems items) := by
  cases items with
  | nil => exact .nil
  | cons w rest =>
    simp only [compactItems, tokensOfItems, List.cons_append]
    refine .mark (fun _ => rfl) (.append (writes_compact w (h w List.mem_cons_self)) ?_
      (writes_compactItems rest fun v hv => h v (List.mem_cons_of_mem w hv)))
    cases rest with
    | nil => exact endsWord_nil
    | cons => exact endsWord_cons (by decide) _

theorem writes_compactFields (fields : List (Option String × Json)) (h : ∀ field ∈ fields, Printable field.2) :
    Writes (compactFields fields) (tokensOfFields fields) := by
  cases fields with
  | nil => exact .nil
  | cons field rest =>
    obtain ⟨name, w⟩ := field
    simp only [compactFields, tokensOfFields, List.cons_append, List.append_assoc]
    refine .mark (fun _ => rfl) (.quote name (.mark (fun _ => rfl)
      (.append (writes_compact w (h (name, w) List.mem_cons_self)) ?_
        (writes_compactFields rest fun v hv => h v (List.mem_cons_of_mem (name, w) hv)))))
    cases rest with
    | nil => exact endsWord_nil
    | cons => exact endsWord_cons (by decide) _

end

/-- A value written in one line is read back. -/
theorem parse?_compactText {v : Json} (h : Printable v) : parse? v.compactText = some v :=
  (writes_compact v h).parse?

/-! ## Texts of several lines -/

mutual

theorem writes_pretty (level : Nat) (v : Json) (hv : Printable v) : Writes (pretty level v) (tokens v) := by
  cases v with
  | null => exact writes_leaf hv nofun nofun
  | bool b => exact writes_leaf hv nofun nofun
  | number x => exact writes_leaf hv nofun nofun
  | string text => exact writes_leaf hv nofun nofun
  | array items =>
    cases items with
    | nil => exact writes_leaf hv nofun nofun
    | cons w rest =>
      obtain _ | _ | _ | _ | h := hv
      simp only [pretty, tokens, List.cons_append, List.append_assoc]
      refine .mark (fun _ => rfl) (.newLine _ (.append (writes_pretty (level + 1) w (h w List.mem_cons_self)) ?_ ?_))
      · cases rest <;> exact endsWord_cons (by decide) _
      · exact .append (writes_prettyItems (level + 1) rest fun v hv => h v (List.mem_cons_of_mem w hv))
          (endsWord_cons (by decide) _) (.newLine level (.mark (fun _ => rfl) .nil))
  | object fields =>
    cases fields with
    | nil => exact writes_leaf hv nofun nofun
    | cons field rest =>
      obtain ⟨name, w⟩ := field
      obtain _ | _ | _ | _ | _ | h := hv
      simp only [pretty, tokens, List.cons_append, List.append_assoc]
      refine .mark (fun _ => rfl) (.newLine _ (.quote name (.mark (fun _ => rfl) (.space
        (.append (writes_pretty (level + 1) w (h (name, w) List.mem_cons_self)) ?_ ?_)))))
      · cases rest <;> exact endsWord_cons (by decide) _
      · exact .append (writes_prettyFields (level + 1) rest fun v hv => h v (List.mem_cons_of_mem (name, w) hv))
          (endsWord_cons (by decide) _) (.newLine level (.mark (fun _ => rfl) .nil))

theorem writes_prettyItems (level : Nat) (items : List Json) (h : ∀ v ∈ items, Printable v) :
    Writes (prettyItems level items) (tokensOfItems items) := by
  cases items with
  | nil => exact .nil
  | cons w rest =>
    simp only [prettyItems, tokensOfItems, List.cons_append, List.append_assoc]
    refine .mark (fun _ => rfl) (.newLine level (.append (writes_pretty level w (h w List.mem_cons_self)) ?_
      (writes_prettyItems level rest fun v hv => h v (List.mem_cons_of_mem w hv))))
    cases rest with
    | nil => exact endsWord_nil
    | cons => exact endsWord_cons (by decide) _

theorem writes_prettyFields (level : Nat) (fields : List (Option String × Json))
    (h : ∀ field ∈ fields, Printable field.2) : Writes (prettyFields level fields) (tokensOfFields fields) := by
  cases fields with
  | nil => exact .nil
  | cons field rest =>
    obtain ⟨name, w⟩ := field
    simp only [prettyFields, tokensOfFields, List.cons_append, List.append_assoc]
    refine .mark (fun _ => rfl) (.newLine level (.quote name (.mark (fun _ => rfl) (.space
      (.append (writes_pretty level w (h (name, w) List.mem_cons_self)) ?_
        (writes_prettyFields level rest fun v hv => h v (List.mem_cons_of_mem (name, w) hv)))))))
    cases rest with
    | nil => exact endsWord_nil
    | cons => exact endsWord_cons (by decide) _

end

/-- A value written over several lines is read back. -/
theorem parse?_prettyText {v : Json} (h : Printable v) : parse? v.prettyText = some v :=
  (writes_pretty 0 v h).parse?

end CallGuard.Json
