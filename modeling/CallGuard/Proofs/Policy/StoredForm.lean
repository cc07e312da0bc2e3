import CallGuard.Proofs.Json.Objects
import CallGuard.Proofs.Json.Records
import CallGuard.Snapshot

/-! # What a policy file may look like

Which objects are read as snapshots, and as which. Only the governance identity must be there; no field of a snapshot
may come twice; keys are texts or arrays of bytes, and call sites objects or pairs (`Snapshot.StoredIn`). Other fields
mean nothing, and neither does the order of fields. The main statement is `Snapshot.readsObjects`. -/

namespace CallGuard
open Json (Once OnceOrDefault StoresList StoresText)

namespace CallSite
variable {site : CallSite}

/-- The names of the fields of a stored call site. -/
def fieldNames : List String := ["target", "selector"]

/-- The fields of an object store a call site: contract and selector come exactly once. -/
structure StoredIn (fields : List (String × Json)) (site : CallSite) : Prop where
  target : Once fields "target" Octets.StoredAs site.target
  selector : Once fields "selector" Octets.StoredAs site.selector

/-- A value stores a call site: as an object with its fields, or as the array of contract and selector. -/
inductive StoredAs : Json → CallSite → Prop
  | object {fields : List (String × Json)} {site : CallSite} (h : site.StoredIn fields) :
      StoredAs (.ofFields fields) site
  | pair {target selector : Json} {site : CallSite} (htarget : Octets.StoredAs target site.target)
      (hselector : Octets.StoredAs selector site.selector) : StoredAs (.array [target, selector]) site

theorem ofJson?_ofFields {fields : List (String × Json)} :
    ofJson? (.ofFields fields) = some site ↔ site.StoredIn fields := by
  constructor
  · intro h
    obtain ⟨found, hfound, h⟩ := Option.bind_eq_some_iff.mp h
    obtain ⟨hone, rfl⟩ := Json.fields?_ofFields_eq_some.mp hfound
    obtain ⟨target, htarget, h⟩ := Option.bind_eq_some_iff.mp h
    obtain ⟨selector, hselector, h⟩ := Option.bind_eq_some_iff.mp h
    cases h
    simp only [List.forall_mem_cons] at hone
    exact ⟨(Json.required_eq_some Octets.ofJson?_eq_some hone.1).mp htarget,
      (Json.required_eq_some Octets.ofJson?_eq_some hone.2.1).mp hselector⟩
  · rintro ⟨htarget, hselector⟩
    have hone : ∀ name ∈ fieldNames, (Json.valuesOf fields name).length ≤ 1 := by
      simp [fieldNames, htarget.length_le, hselector.length_le]
    refine Option.bind_eq_some_iff.mpr ⟨_, Json.fields?_ofFields_eq_some.mpr ⟨hone, rfl⟩, ?_⟩
    refine Option.bind_eq_some_iff.mpr ⟨site.target, ?_, Option.bind_eq_some_iff.mpr ⟨site.selector, ?_, rfl⟩⟩
    · exact (Json.required_eq_some Octets.ofJson?_eq_some htarget.length_le).mpr htarget
    · exact (Json.required_eq_some Octets.ofJson?_eq_some hselector.length_le).mpr hselector

theorem fields?_array {items : List Json} {found : Json.Fields} :
    Json.fields? fieldNames (.array items) = some found ↔
      items.length ≤ 2 ∧ found = fun name => items[fieldNames.idxOf name]? := by
  have hfields : Json.fields? fieldNames (.array items) =
      if items.length ≤ 2 then some fun name => items[fieldNames.idxOf name]? else none := rfl
  rw [hfields]
  split
  · rename_i hlength
    rw [Option.some.injEq, and_iff_right hlength, eq_comm]
  · rename_i hlength
    exact ⟨nofun, fun h => absurd h.1 hlength⟩

theorem ofJson?_array {items : List Json} :
    ofJson? (.array items) = some site ↔ ∃ target selector, items = [target, selector] ∧
      Octets.StoredAs target site.target ∧ Octets.StoredAs selector site.selector := by
  constructor
  · intro h
    obtain ⟨found, hfound, h⟩ := Option.bind_eq_some_iff.mp h
    obtain ⟨hlength, rfl⟩ := fields?_array.mp hfound
    obtain ⟨contract, hcontract, h⟩ := Option.bind_eq_some_iff.mp h
    obtain ⟨function, hfunction, h⟩ := Option.bind_eq_some_iff.mp h
    cases h
    obtain ⟨target, hfirst, htarget⟩ := Option.bind_eq_some_iff.mp hcontract
    obtain ⟨selector, hsecond, hselector⟩ := Option.bind_eq_some_iff.mp hfunction
    refine ⟨target, selector, ?_, Octets.ofJson?_eq_some.mp htarget, Octets.ofJson?_eq_some.mp hselector⟩
    change items[0]? = some target at hfirst
    change items[1]? = some selector at hsecond
    match items, hlength, hfirst, hsecond with
    | [_, _], _, rfl, rfl => rfl
  · rintro ⟨target, selector, rfl, htarget, hselector⟩
    have hfound : Json.fields? fieldNames (.array [target, selector]) =
        some fun name => [target, selector][fieldNames.idxOf name]? := fields?_array.mpr ⟨by simp, rfl⟩
    rw [fieldNames] at hfound
    rw [ofJson?, hfound, Option.bind_eq_bind, Option.bind_some]
    refine Option.bind_eq_some_iff.mpr ⟨site.target, Octets.ofJson?_eq_some.mpr htarget, ?_⟩
    exact Option.bind_eq_some_iff.mpr ⟨site.selector, Octets.ofJson?_eq_some.mpr hselector, rfl⟩

/-- A value is read as a call site exactly if it stores it. -/
theorem ofJson?_eq_some {v : Json} : ofJson? v = some site ↔ StoredAs v site := by
  constructor
  · intro h
    cases v with
    | object fields =>
      obtain ⟨found, hfound, -⟩ := Option.bind_eq_some_iff.mp h
      obtain ⟨named, hnamed⟩ := Json.exists_ofFields hfound
      rw [hnamed] at h ⊢
      exact .object (ofJson?_ofFields.mp h)
    | array items =>
      obtain ⟨target, selector, rfl, htarget, hselector⟩ := ofJson?_array.mp h
      exact .pair htarget hselector
    | _ => cases h
  · intro h
    cases h with
    | object h => exact ofJson?_ofFields.mpr h
    | pair htarget hselector => exact ofJson?_array.mpr ⟨_, _, rfl, htarget, hselector⟩

theorem StoredIn.of_valuesOf {fields fields' : List (String × Json)} (h : site.StoredIn fields)
    (hsame : ∀ name ∈ fieldNames, (Json.valuesOf fields name).Perm (Json.valuesOf fields' name)) :
    site.StoredIn fields' where
  target := h.target.of_valuesOf (hsame _ (by simp [fieldNames]))
  selector := h.selector.of_valuesOf (hsame _ (by simp [fieldNames]))

/-- Objects in which the same values stand under the names of a call site are read alike. -/
theorem ofJson?_congr {fields fields' : List (String × Json)}
    (hsame : ∀ name ∈ fieldNames, (Json.valuesOf fields name).Perm (Json.valuesOf fields' name)) :
    ofJson? (.ofFields fields) = ofJson? (.ofFields fields') := by
  refine Option.ext fun site => ?_
  rw [ofJson?_ofFields, ofJson?_ofFields]
  exact ⟨fun h => h.of_valuesOf hsame, fun h => h.of_valuesOf fun name hname => (hsame name hname).symm⟩

end CallSite

namespace Snapshot
variable {s : Snapshot} {fields fields' : List (String × Json)}

/-- The names of the fields of a snapshot. -/
def fieldNames : List String :=
  ["version", "governance", "call_sites", "assets", "senders", "withdraw_destinations", "approval_destinations"]

/-- The fields of an object store a snapshot: the governance identity comes exactly once, every other field at most
    once, and what does not come is the current version or an empty list. -/
structure StoredIn (fields : List (String × Json)) (s : Snapshot) : Prop where
  version : OnceOrDefault fields "version" "1.0" StoresText s.version
  governance : Once fields "governance" Octets.StoredAs s.governance
  callSites : OnceOrDefault fields "call_sites" [] (StoresList CallSite.StoredAs) s.callSites
  assets : OnceOrDefault fields "assets" [] (StoresList Octets.StoredAs) s.assets
  senders : OnceOrDefault fields "senders" [] (StoresList Octets.StoredAs) s.senders
  withdrawDestinations :
    OnceOrDefault fields "withdraw_destinations" [] (StoresList Octets.StoredAs) s.withdrawDestinations
  approvalDestinations :
    OnceOrDefault fields "approval_destinations" [] (StoresList Octets.StoredAs) s.approvalDestinations

theorem StoredIn.length_le (h : s.StoredIn fields) : ∀ name ∈ fieldNames, (Json.valuesOf fields name).length ≤ 1 := by
  simp [fieldNames, h.version.length_le, h.governance.length_le, h.callSites.length_le, h.assets.length_le,
    h.senders.length_le, h.withdrawDestinations.length_le, h.approvalDestinations.length_le]

theorem StoredIn.of_valuesOf (h : s.StoredIn fields)
    (hsame : ∀ name ∈ fieldNames, (Json.valuesOf fields name).Perm (Json.valuesOf fields' name)) :
    s.StoredIn fields' where
  version := h.version.of_valuesOf (hsame _ (by simp [fieldNames]))
  governance := h.governance.of_valuesOf (hsame _ (by simp [fieldNames]))
  callSites := h.callSites.of_valuesOf (hsame _ (by simp [fieldNames]))
  assets := h.assets.of_valuesOf (hsame _ (by simp [fieldNames]))
  senders := h.senders.of_valuesOf (hsame _ (by simp [fieldNames]))
  withdrawDestinations := h.withdrawDestinations.of_valuesOf (hsame _ (by simp [fieldNames]))
  approvalDestinations := h.approvalDestinations.of_valuesOf (hsame _ (by simp [fieldNames]))

/-- An object is read as a snapshot exactly if its fields store it. -/
theorem ofJson?_ofFields : ofJson? (.ofFields fields) = some s ↔ s.StoredIn fields := by
  have hsites : ∀ {v sites}, Json.list? CallSite.ofJson? v = some sites ↔ StoresList CallSite.StoredAs v sites :=
    Json.list?_eq_some CallSite.ofJson?_eq_some
  have haddresses : ∀ {v list}, Json.list? (Octets.ofJson? 20) v = some list ↔ StoresList Octets.StoredAs v list :=
    Json.list?_eq_some Octets.ofJson?_eq_some
  constructor
  · intro h
    obtain ⟨found, hfound, h⟩ := Option.bind_eq_some_iff.mp h
    obtain ⟨hone, rfl⟩ := Json.fields?_ofFields_eq_some.mp hfound
    obtain ⟨version, hversion, h⟩ := Option.bind_eq_some_iff.mp h
    obtain ⟨governance, hgovernance, h⟩ := Option.bind_eq_some_iff.mp h
    obtain ⟨callSites, hcallSites, h⟩ := Option.bind_eq_some_iff.mp h
    obtain ⟨assets, hassets, h⟩ := Option.bind_eq_some_iff.mp h
    obtain ⟨senders, hsenders, h⟩ := Option.bind_eq_some_iff.mp h
    obtain ⟨withdraw, hwithdraw, h⟩ := Option.bind_eq_some_iff.mp h
    obtain ⟨approval, happroval, h⟩ := Option.bind_eq_some_iff.mp h
    cases h
    simp only [List.forall_mem_cons] at hone
    obtain ⟨h₁, h₂, h₃, h₄, h₅, h₆, h₇, -⟩ := hone
    exact {
      version := (Json.optional_eq_some Json.text?_eq_some h₁).mp hversion
      governance := (Json.required_eq_some Octets.ofJson?_eq_some h₂).mp hgovernance
      callSites := (Json.optional_eq_some hsites h₃).mp hcallSites
      assets := (Json.optional_eq_some haddresses h₄).mp hassets
      senders := (Json.optional_eq_some haddresses h₅).mp hsenders
      withdrawDestinations := (Json.optional_eq_some haddresses h₆).mp hwithdraw
      approvalDestinations := (Json.optional_eq_some haddresses h₇).mp happroval }
  · intro h
    have hlist : ∀ {name : String} {list : List Address},
        OnceOrDefault fields name [] (StoresList Octets.StoredAs) list →
          Json.Fields.optional (fun name => (Json.valuesOf fields name).head?) name [] (Json.list? (Octets.ofJson? 20)) =
            some list := fun h => (Json.optional_eq_some haddresses h.length_le).mpr h
    refine Option.bind_eq_some_iff.mpr ⟨_, Json.fields?_ofFields_eq_some.mpr ⟨h.length_le, rfl⟩, ?_⟩
    refine Option.bind_eq_some_iff.mpr ⟨s.version, ?_, Option.bind_eq_some_iff.mpr ⟨s.governance, ?_, ?_⟩⟩
    · exact (Json.optional_eq_some Json.text?_eq_some h.version.length_le).mpr h.version
    · exact (Json.required_eq_some Octets.ofJson?_eq_some h.governance.length_le).mpr h.governance
    refine Option.bind_eq_some_iff.mpr ⟨s.callSites, ?_, Option.bind_eq_some_iff.mpr ⟨s.assets, hlist h.assets, ?_⟩⟩
    · exact (Json.optional_eq_some hsites h.callSites.length_le).mpr h.callSites
    refine Option.bind_eq_some_iff.mpr ⟨s.senders, hlist h.senders, ?_⟩
    refine Option.bind_eq_some_iff.mpr ⟨s.withdrawDestinations, hlist h.withdrawDestinations, ?_⟩
    exact Option.bind_eq_some_iff.mpr ⟨s.approvalDestinations, hlist h.approvalDestinations, rfl⟩

/-- Objects in which the same values stand under the names of a snapshot are read alike. -/
theorem ofJson?_congr
    (hsame : ∀ name ∈ fieldNames, (Json.valuesOf fields name).Perm (Json.valuesOf fields' name)) :
    ofJson? (.ofFields fields) = ofJson? (.ofFields fields') := by
  refine Option.ext fun s => ?_
  rw [ofJson?_ofFields, ofJson?_ofFields]
  exact ⟨fun h => h.of_valuesOf hsame, fun h => h.of_valuesOf fun name hname => (hsame name hname).symm⟩

/-- How objects are read as snapshots. -/
structure ReadsObjects : Prop where
  /-- An object is read as a snapshot exactly if its fields store it. -/
  accepted : ∀ fields s, ofJson? (.ofFields fields) = some s ↔ s.StoredIn fields
  /-- A policy file is read as the object that it holds. -/
  file : ∀ text fields, Json.parse? text = some (.ofFields fields) → ∀ s, read text = .ok s ↔ s.StoredIn fields
  /-- No object is read in which the name of a field is no text. -/
  unnamed : ∀ fields : List (Option String × Json), (∃ field ∈ fields, field.1 = none) → ofJson? (.object fields) = none
  /-- The order of fields does not count. -/
  reordered : ∀ fields fields' : List (String × Json), fields.Perm fields' →
    ofJson? (.ofFields fields) = ofJson? (.ofFields fields')
  /-- Fields of other names do not count. -/
  strangers : ∀ fields : List (String × Json),
    ofJson? (.ofFields (fields.filter fun field => field.1 ∈ fieldNames)) = ofJson? (.ofFields fields)
  /-- Neither does count in a call site. -/
  sites : ∀ fields fields' : List (String × Json),
    (fields.filter fun field => field.1 ∈ CallSite.fieldNames).Perm
      (fields'.filter fun field => field.1 ∈ CallSite.fieldNames) →
    CallSite.ofJson? (.ofFields fields) = CallSite.ofJson? (.ofFields fields')

/-- An object is a snapshot exactly if its fields, in any order and among any others, store one. -/
theorem readsObjects : ReadsObjects where
  accepted _ _ := ofJson?_ofFields
  file text fields hparse s := by
    rw [read, hparse, ← ofJson?_ofFields, Option.bind_eq_bind, Option.bind_some]
    cases ofJson? (.ofFields fields) <;> simp
  unnamed fields h := by
    show (Json.fields? fieldNames (.object fields)).bind _ = none
    rw [Json.fields?_of_unnamed h]
    rfl
  reordered _ _ hperm := ofJson?_congr fun name _ => Json.valuesOf_perm hperm name
  strangers fields := by
    refine ofJson?_congr fun name hname => ?_
    rw [Json.valuesOf_filter hname]
  sites fields fields' hperm := by
    refine CallSite.ofJson?_congr fun name hname => ?_
    have hsame := Json.valuesOf_perm hperm name
    rwa [Json.valuesOf_filter hname, Json.valuesOf_filter hname] at hsame

/-- An object in disorder, with a field that means nothing in it and one in a call site, and with keys and call sites in
    both forms. -/
theorem readsObjects_disorder :
    let a : Address := .ofNat 20 1
    let numbers : Json := .array (a.bytes.map fun b => .ofNat b.toNat)
    let site : Json := .ofFields [("memo", .null), ("selector", (Octets.ofNat 4 7).toJson), ("target", a.toJson)]
    let sites := ("call_sites", Json.array [site, .array [numbers, (Octets.ofNat 4 8).toJson]])
    let senders := ("senders", Json.array [numbers, a.toJson])
    let owner := ("governance", a.toJson)
    let s : Snapshot := ⟨"1.0", a, [⟨a, .ofNat 4 7⟩, ⟨a, .ofNat 4 8⟩], [], [a, a], [], []⟩
    [owner, sites, senders].Perm [sites, senders, owner] ∧ ofJson? (.ofFields [owner, sites, senders]) = some s ∧
      ofJson? (.ofFields [sites, ("memo", .array [.null]), senders, owner]) = some s := by
  intro a numbers site sites senders owner s
  have htext : ∀ {n : Nat} (a : Octets n), Octets.StoredAs a.toJson a :=
    fun a => Octets.ofJson?_eq_some.mp (Octets.ofJson?_toJson a)
  have hobject : CallSite.StoredAs site ⟨a, .ofNat 4 7⟩ :=
    .object ⟨⟨_, rfl, htext _⟩, ⟨_, rfl, htext _⟩⟩
  have hpair : CallSite.StoredAs (.array [numbers, (Octets.ofNat 4 8).toJson]) ⟨a, .ofNat 4 8⟩ :=
    .pair (.numbers a) (htext _)
  have hstored : s.StoredIn [owner, sites, senders] := {
    version := .inl ⟨rfl, rfl⟩
    governance := ⟨_, rfl, htext _⟩
    callSites := .inr ⟨_, rfl, _, rfl, .cons hobject (.cons hpair .nil)⟩
    assets := .inl ⟨rfl, rfl⟩
    senders := .inr ⟨_, rfl, _, rfl, .cons (.numbers a) (.cons (htext _) .nil)⟩
    withdrawDestinations := .inl ⟨rfl, rfl⟩
    approvalDestinations := .inl ⟨rfl, rfl⟩ }
  have hperm : [owner, sites, senders].Perm [sites, senders, owner] := by
    show ([owner] ++ [sites, senders]).Perm ([sites, senders] ++ [owner])
    exact List.perm_append_comm
  have hread := (readsObjects.accepted _ _).mpr hstored
  refine ⟨hperm, hread, ?_⟩
  rw [← readsObjects.strangers, ← hread]
  exact (readsObjects.reordered _ _ hperm).symm

end Snapshot

end CallGuard
