import CallGuard.Proofs.Json.Records
import CallGuard.Snapshot

/-! # Stored policies

A snapshot is read back from its text (`read_text`), and the snapshot of a policy stores that policy
(`policy_ofPolicy`). So a guard that is restored from the text of its snapshot has the same policy, and nothing is
recorded on its trail (`restore_snapshot`). -/

namespace CallGuard

theorem CallSite.ofJson?_toJson (site : CallSite) : ofJson? site.toJson = some site := by
  have htarget : Octets.ofJson? 20 site.target.toJson = some site.target := Octets.ofJson?_toJson _
  have hselector : Octets.ofJson? 4 site.selector.toJson = some site.selector := Octets.ofJson?_toJson _
  rw [toJson, ofJson?, Json.fields?_ofFields _ (by simp)]
  simp only [Json.Fields.required, Json.lookup_cons_eq_ite, String.reduceEq, if_true, if_false, Option.bind_eq_bind,
    Option.bind_some, htarget, hselector]
  rfl

theorem CallSite.printable_toJson (site : CallSite) : Json.Printable site.toJson :=
  Json.printable_ofFields (by simp [Octets.printable_toJson])

namespace Snapshot

theorem ofJson?_toJson (s : Snapshot) : ofJson? s.toJson = some s := by
  have hversion : Json.text? (.ofText s.version) = some s.version := rfl
  have hgovernance : Octets.ofJson? 20 s.governance.toJson = some s.governance := Octets.ofJson?_toJson _
  have hsites : Json.list? CallSite.ofJson? (.array (s.callSites.map CallSite.toJson)) = some s.callSites :=
    Json.list?_map CallSite.ofJson?_toJson _
  have haddresses (list : List Address) :
      Json.list? (Octets.ofJson? 20) (.array (list.map Octets.toJson)) = some list :=
    Json.list?_map Octets.ofJson?_toJson _
  rw [toJson, ofJson?, Json.fields?_ofFields _ (by simp)]
  simp only [Json.Fields.optional, Json.Fields.required, Option.bind_eq_bind, Option.bind_some]
  -- The names are compared only once every look-up stands as a chain of choices.
  simp only [Json.lookup_cons_eq_ite]
  simp only [String.reduceEq, if_true, if_false]
  rw [hversion, Option.bind_some, Option.bind_some, hgovernance, hsites, haddresses, haddresses, haddresses, haddresses]
  rfl

theorem printable_toJson (s : Snapshot) : Json.Printable s.toJson := by
  have haddresses : ∀ list : List Address, Json.Printable (.array (list.map Octets.toJson)) :=
    Json.printable_map Octets.printable_toJson
  exact Json.printable_ofFields (by
    simp [haddresses, Json.printable_map CallSite.printable_toJson, Json.printable_ofText, Octets.printable_toJson])

/-- A snapshot is read back from its text. -/
theorem read_text (s : Snapshot) : read s.text = .ok s := by
  have hparse : (Json.parse? s.text >>= ofJson?) = some s := by
    rw [text, Json.parse?_prettyText (printable_toJson s)]
    exact ofJson?_toJson s
  rw [read, hparse]

section
variable {p : Policy} {key : Key}

theorem mem_map_callSite : key ∈ p.callSites.map .callSite ↔ key ∈ p ∧ key.kind = .callSite := by
  rw [List.mem_map]
  constructor
  · rintro ⟨site, hsite, rfl⟩
    obtain ⟨stored, hstored, hkey⟩ := List.mem_filterMap.mp hsite
    cases stored with
    | callSite s =>
      cases hkey
      exact ⟨hstored, rfl⟩
    | _ => cases hkey
  · rintro ⟨hmem, hkind⟩
    cases key with
    | callSite site => exact ⟨site, List.mem_filterMap.mpr ⟨_, hmem, rfl⟩, rfl⟩
    | _ => cases hkind

/-- A key is the one of its address in its list. -/
theorem eq_of_ofAddress? {made : Key} (h : Key.ofAddress? key.kind key.address = some made) : made = key := by
  cases key with
  | callSite site => cases h
  | _ => exact (Option.some.inj h).symm

/-- The addresses of a list, made keys again, are its entries. -/
theorem mem_map_keys {kind : ListKind} {make : Address → Key} (hmake : ∀ a, Key.ofAddress? kind a = some (make a)) :
    key ∈ ((p.keys kind).map (·.address)).map make ↔ key ∈ p ∧ key.kind = kind := by
  have haddress : ∀ {stored : Key}, stored.kind = kind → make stored.address = stored := by
    rintro stored rfl
    exact eq_of_ofAddress? (hmake stored.address)
  simp only [List.mem_map, Policy.keys, List.mem_filter, decide_eq_true_eq]
  constructor
  · rintro ⟨_, ⟨stored, ⟨hstored, hkind⟩, rfl⟩, rfl⟩
    rw [haddress hkind]
    exact ⟨hstored, hkind⟩
  · rintro ⟨hmem, hkind⟩
    exact ⟨key.address, ⟨key, ⟨hmem, hkind⟩, rfl⟩, haddress hkind⟩

/-- The five lists of a snapshot of a policy hold its entries. -/
theorem mem_keys_ofPolicy : key ∈ (ofPolicy p).keys ↔ key ∈ p := by
  have hassets : key ∈ p.assets.map .asset ↔ key ∈ p ∧ key.kind = .asset := mem_map_keys fun _ => rfl
  have hsenders : key ∈ p.senders.map .sender ↔ key ∈ p ∧ key.kind = .sender := mem_map_keys fun _ => rfl
  have hwithdraw : key ∈ p.withdrawDestinations.map .withdrawDestination ↔ key ∈ p ∧ key.kind = .withdrawDestination :=
    mem_map_keys fun _ => rfl
  have happroval : key ∈ p.approvalDestinations.map .approvalDestination ↔ key ∈ p ∧ key.kind = .approvalDestination :=
    mem_map_keys fun _ => rfl
  simp only [keys, ofPolicy, List.mem_append, mem_map_callSite, hassets, hsenders, hwithdraw, happroval]
  constructor
  · rintro ((((h | h) | h) | h) | h) <;> exact h.1
  · intro h
    cases key <;> simp [h, Key.kind]

end

/-- The snapshot of a policy stores that policy. -/
theorem policy_ofPolicy (p : Policy) : (ofPolicy p).policy = p := by
  refine Policy.ext_mem rfl fun key => ?_
  show key ∈ SortedSet.ofList _ ↔ _
  rw [SortedSet.mem_ofList, mem_keys_ofPolicy]

end Snapshot

namespace Guard

theorem ofSnapshot_snapshot (g : Guard) : ofSnapshot g.snapshot = .ok (.ofPolicy g.policy) := by
  have hversion : g.snapshot.version = Snapshot.currentVersion := rfl
  rw [ofSnapshot, if_pos hversion, snapshot, Snapshot.policy_ofPolicy]

/-- A guard that is restored from the text of its snapshot has the same policy and an empty trail. -/
theorem restore_snapshot (g : Guard) : restore g.snapshot.text = .ok (.ofPolicy g.policy) := by
  rw [restore, Snapshot.read_text]
  exact ofSnapshot_snapshot g

end Guard

end CallGuard
