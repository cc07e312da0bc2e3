import CallGuard.Json.Fields
import CallGuard.Proofs.Hex.Spelling
import CallGuard.Proofs.Outcome
import Mathlib.Data.List.Forall2

/-! # Objects by their fields

What is read from an object depends on the values under each name, not on the order in which the names come nor on what
stands under other names (`valuesOf`). A field that is required is read where its name comes exactly once, one with a
default where it comes at most once (`Once`, `OnceOrDefault`). For byte strings, lists and texts the values that store
them are told without the functions that read them. -/

namespace CallGuard

namespace Json
variable {α : Type} {fields fields' : List (String × Json)} {name : String} {read : Json → Option α}
  {stores : Json → α → Prop} {a : α}

/-- The values that stand under a name, in order. -/
def valuesOf (fields : List (String × Json)) (name : String) : List Json :=
  (fields.filter fun field => field.1 = name).map Prod.snd

/-- A name comes exactly once, and its value stores `a`. -/
def Once (fields : List (String × Json)) (name : String) (stores : Json → α → Prop) (a : α) : Prop :=
  ∃ v, valuesOf fields name = [v] ∧ stores v a

/-- A name comes at most once: its value stores `a`, or there is none and `a` is the default. -/
def OnceOrDefault (fields : List (String × Json)) (name : String) (default : α) (stores : Json → α → Prop) (a : α) :
    Prop :=
  valuesOf fields name = [] ∧ a = default ∨ Once fields name stores a

/-! ## What counts of the fields -/

theorem valuesOf_perm (h : fields.Perm fields') (name : String) :
    (valuesOf fields name).Perm (valuesOf fields' name) :=
  (h.filter _).map _

/-- What stands under other names does not count. -/
theorem valuesOf_filter {names : List String} (h : name ∈ names) :
    valuesOf (fields.filter fun field => field.1 ∈ names) name = valuesOf fields name := by
  rw [valuesOf, List.filter_filter, valuesOf]
  refine congrArg _ (List.filter_congr fun field _ => ?_)
  by_cases hname : field.1 = name
  · simp [hname, h]
  · simp [hname]

theorem Once.of_valuesOf (h : Once fields name stores a) (hsame : (valuesOf fields name).Perm (valuesOf fields' name)) :
    Once fields' name stores a := by
  obtain ⟨v, hv, hstores⟩ := h
  rw [hv] at hsame
  exact ⟨v, List.perm_singleton.mp hsame.symm, hstores⟩

theorem OnceOrDefault.of_valuesOf {default : α} (h : OnceOrDefault fields name default stores a)
    (hsame : (valuesOf fields name).Perm (valuesOf fields' name)) : OnceOrDefault fields' name default stores a := by
  rcases h with ⟨hnone, hdefault⟩ | honce
  · rw [hnone] at hsame
    exact .inl ⟨hsame.symm.eq_nil, hdefault⟩
  · exact .inr (honce.of_valuesOf hsame)

theorem Once.length_le (h : Once fields name stores a) : (valuesOf fields name).length ≤ 1 := by
  obtain ⟨v, hv, -⟩ := h
  rw [hv]
  exact Nat.le_refl 1

theorem OnceOrDefault.length_le {default : α} (h : OnceOrDefault fields name default stores a) :
    (valuesOf fields name).length ≤ 1 := by
  rcases h with ⟨hnone, -⟩ | honce
  · rw [hnone]
    exact Nat.zero_le 1
  · exact honce.length_le

/-! ## Reading fields -/

/-- A record is found in an object exactly if none of its names comes twice, and its fields are then the values under
    their names. -/
theorem fields?_ofFields_eq_some {names : List String} {found : Fields} :
    fields? names (ofFields fields) = some found ↔
      (∀ name ∈ names, (valuesOf fields name).length ≤ 1) ∧ found = fun name => (valuesOf fields name).head? := by
  have hstored : (fields.map fun field => (some field.1, field.2)).all (·.1.isSome) = true := by
    simp
  have hcount : ∀ name, (fields.map fun field => (some field.1, field.2)).countP (·.1 == some name) =
      (valuesOf fields name).length := by
    intro name
    rw [List.countP_map, List.countP_eq_length_filter, valuesOf, List.length_map]
    rfl
  have hfind : ∀ name, ((fields.map fun field => (some field.1, field.2)).find? (·.1 == some name)).map (·.2) =
      (valuesOf fields name).head? := by
    intro name
    rw [List.find?_map, valuesOf, List.head?_map, List.head?_filter, Option.map_map]
    rfl
  rw [ofFields, fields?, hstored, Bool.true_and]
  simp only [hcount, hfind, List.all_eq_true, decide_eq_true_eq]
  split
  · rename_i h
    rw [Option.some.injEq, and_iff_right h, eq_comm]
  · rename_i h
    constructor
    · nofun
    · exact fun hall => absurd hall.1 h

/-- A record is found in no object in which a name has no text. -/
theorem fields?_of_unnamed {names : List String} {fields : List (Option String × Json)}
    (h : ∃ field ∈ fields, field.1 = none) : fields? names (.object fields) = none := by
  obtain ⟨field, hmem, hnone⟩ := h
  have hstored : fields.all (·.1.isSome) = false := by
    refine List.all_eq_false.mpr ⟨field, hmem, ?_⟩
    rw [hnone]
    exact Bool.false_ne_true
  rw [fields?, hstored, Bool.false_and]
  rfl

theorem exists_ofFields {names : List String} {fields : List (Option String × Json)} {found : Fields}
    (h : fields? names (.object fields) = some found) : ∃ named, .object fields = ofFields named := by
  have hnamed : ∀ field ∈ fields, field.1 ≠ none := by
    intro field hfield hnone
    rw [fields?_of_unnamed ⟨field, hfield, hnone⟩] at h
    cases h
  refine ⟨fields.map fun field => (field.1.getD "", field.2), ?_⟩
  rw [ofFields, List.map_map, Json.object.injEq]
  refine (List.map_id fields).symm.trans (List.map_congr_left fun field hfield => ?_)
  obtain ⟨name, v⟩ := field
  cases name with
  | none => exact absurd rfl (hnamed _ hfield)
  | some name => rfl

theorem head?_eq_some_iff_of_length {vs : List Json} {v : Json} (h : vs.length ≤ 1) : vs.head? = some v ↔ vs = [v] := by
  match vs, h with
  | [], _ => simp
  | [w], _ => simp

theorem required_eq_some (hread : ∀ {v a}, read v = some a ↔ stores v a)
    (hone : (valuesOf fields name).length ≤ 1) :
    Fields.required (fun name => (valuesOf fields name).head?) name read = some a ↔ Once fields name stores a := by
  rw [Fields.required, Option.bind_eq_bind, Option.bind_eq_some_iff]
  simp only [head?_eq_some_iff_of_length hone, hread, Once]

theorem optional_eq_some {default : α} (hread : ∀ {v a}, read v = some a ↔ stores v a)
    (hone : (valuesOf fields name).length ≤ 1) :
    Fields.optional (fun name => (valuesOf fields name).head?) name default read = some a ↔
      OnceOrDefault fields name default stores a := by
  rw [Fields.optional, OnceOrDefault, Once]
  cases hvalues : valuesOf fields name with
  | nil => simp [eq_comm]
  | cons v rest =>
    rw [hvalues] at hone
    obtain rfl : rest = [] := List.length_eq_zero_iff.mp (Nat.le_zero.mp (Nat.le_of_succ_le_succ hone))
    simp [hread]

/-! ## Reading values -/

theorem mapM_eq_some {β : Type} {read : β → Option α} {items : List β} {xs : List α} :
    items.mapM read = some xs ↔ List.Forall₂ (fun item x => read item = some x) items xs := by
  induction items generalizing xs with
  | nil => cases xs <;> simp
  | cons item items ih =>
    rw [List.mapM_cons, Option.bind_eq_bind, Option.bind_eq_some_iff]
    simp only [Option.bind_eq_bind, Option.bind_eq_some_iff, ih]
    constructor
    · rintro ⟨x, hx, xs, hxs, h⟩
      cases h
      exact .cons hx hxs
    · intro h
      cases h with
      | cons hx hxs => exact ⟨_, hx, _, hxs, rfl⟩

/-- A value is an array whose items store those of a list, in order. -/
def StoresList (stores : Json → α → Prop) (v : Json) (xs : List α) : Prop :=
  ∃ items, v = .array items ∧ List.Forall₂ stores items xs

/-- A value is the string of a text. -/
def StoresText (v : Json) (text : String) : Prop :=
  v = .ofText text

theorem text?_eq_some {v : Json} {text : String} : text? v = some text ↔ StoresText v text := by
  cases v <;> simp [text?, StoresText, ofText]

theorem list?_eq_some (hread : ∀ {v a}, read v = some a ↔ stores v a) {v : Json} {xs : List α} :
    list? read v = some xs ↔ StoresList stores v xs := by
  have hitems : ∀ items, v.items? = some items ↔ v = .array items := by
    intro items
    cases v <;> simp [items?]
  rw [list?, Option.bind_eq_bind, Option.bind_eq_some_iff]
  simp only [hitems, mapM_eq_some, hread, StoresList]

theorem natural?_eq_some {bound n : Nat} {v : Json} : natural? bound v = some n ↔ v = .ofNat n ∧ n < bound := by
  cases v with
  | number x =>
    rw [natural?, Option.filter_eq_some_iff, decide_eq_true_eq, ofNat, Json.number.injEq, Number.natural?]
    refine and_congr_left fun _ => ?_
    split
    · rename_i hx
      rw [Option.some.injEq]
      exact ⟨fun h => h ▸ hx, fun h => congrArg Number.whole h⟩
    · rename_i hx
      constructor
      · nofun
      · rintro rfl
        exact absurd rfl hx
  | _ => simp [natural?, ofNat]

end Json

namespace Octets
variable {n : Nat} {v : Json} {a : Octets n}

/-- A value stores a byte string: as a text that spells it, or as the array of its bytes. -/
inductive StoredAs : Json → Octets n → Prop
  | text {text : String} {a : Octets n} (h : Spells text a) : StoredAs (.ofText text) a
  | numbers (a : Octets n) : StoredAs (.array (a.bytes.map fun b => .ofNat b.toNat)) a

theorem mapM_natural?_eq_some {items : List Json} {ks : List Nat} :
    items.mapM (Json.natural? 256) = some ks ↔ items = ks.map .ofNat ∧ ∀ k ∈ ks, k < 256 := by
  rw [Json.mapM_eq_some]
  simp only [Json.natural?_eq_some]
  induction items generalizing ks with
  | nil => cases ks <;> simp
  | cons item items ih =>
    cases ks with
    | nil => simp
    | cons k ks =>
      simp only [List.forall₂_cons, ih, List.map_cons, List.cons.injEq, List.forall_mem_cons]
      exact and_and_and_comm

theorem ofBytes?_eq_some {bs : Bytes} : ofBytes? n bs = some a ↔ bs = a.bytes := by
  rw [ofBytes?]
  split
  · rename_i h
    rw [Option.some.injEq, Octets.ext_iff]
  · rename_i h
    constructor
    · intro hnone
      cases hnone
    · rintro rfl
      exact absurd a.length_bytes h

theorem ofJson?_eq_some : ofJson? n v = some a ↔ StoredAs v a := by
  constructor
  · intro h
    cases v with
    | string text =>
      obtain ⟨text, rfl, hread⟩ := Option.bind_eq_some_iff.mp h
      exact .text (read_eq_ok_iff_spells.mp (Outcome.toOption_eq_some.mp hread))
    | array items =>
      obtain ⟨ks, hks, hbytes⟩ := Option.bind_eq_some_iff.mp h
      obtain ⟨rfl, hlt⟩ := mapM_natural?_eq_some.mp hks
      have hitems : ks.map Json.ofNat = a.bytes.map fun b => .ofNat b.toNat := by
        rw [← ofBytes?_eq_some.mp hbytes, List.map_map]
        refine List.map_congr_left fun k hk => congrArg Json.ofNat ?_
        have hk' := hlt k hk
        rw [UInt8.toNat_ofNat', Nat.mod_eq_of_lt hk']
      rw [hitems]
      exact .numbers a
    | _ => cases h
  · intro h
    cases h with
    | text h => exact Outcome.toOption_eq_some.mpr (read_eq_ok_iff_spells.mpr h)
    | numbers =>
      refine Option.bind_eq_some_iff.mpr ⟨a.bytes.map (·.toNat), mapM_natural?_eq_some.mpr ⟨?_, ?_⟩, ?_⟩
      · rw [List.map_map]
        rfl
      · intro k hk
        obtain ⟨b, -, rfl⟩ := List.mem_map.mp hk
        exact b.toNat_lt
      · refine ofBytes?_eq_some.mpr ?_
        rw [List.map_map]
        exact List.map_id'' (fun b => UInt8.ofNat_toNat) a.bytes

end Octets

end CallGuard
