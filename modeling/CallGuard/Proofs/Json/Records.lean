import CallGuard.Json.Fields
import CallGuard.Proofs.Hex
import CallGuard.Proofs.Json.RoundTrip

/-! # Reading stored records

The parts that stored records are put together from are read back: the fields of an object by their names, the items of
an array one by one, and byte strings of fixed length. -/

namespace CallGuard

namespace Json

/-- The fields of an object whose names are all different are found by their names. -/
theorem fields?_ofFields (names : List String) {fields : List (String × Json)} (h : (fields.map Prod.fst).Nodup) :
    fields? names (ofFields fields) = some fun name => fields.lookup name := by
  -- No name of the record comes twice, so what is found first is all there is.
  have hcount : ∀ name, (fields.map fun field => (some field.1, field.2)).countP (·.1 == some name) ≤ 1 := by
    intro name
    have hname := List.nodup_iff_count.mp h name
    rw [List.count_eq_countP, List.countP_map] at hname
    rw [List.countP_map]
    exact hname
  have hfind : ∀ name, ((fields.map fun field => (some field.1, field.2)).find? (·.1 == some name)).map (·.2) =
      fields.lookup name := by
    intro name
    clear hcount h
    induction fields with
    | nil => rfl
    | cons field fields ih =>
      obtain ⟨first, v⟩ := field
      by_cases hname : first = name
      · subst hname
        simp
      · have hne : (name == first) = false := by simpa using Ne.symm hname
        rw [List.map_cons, List.find?_cons_of_neg (by simpa using hname), ih, List.lookup_cons, hne]
  have hstored : (fields.map fun field => (some field.1, field.2)).all (·.1.isSome) = true := by
    simp
  rw [ofFields, fields?, if_pos ?_]
  · exact congrArg some (funext hfind)
  · exact Bool.and_eq_true_iff.mpr ⟨hstored, List.all_eq_true.mpr fun name _ => decide_eq_true (hcount name)⟩

theorem lookup_cons_eq_ite {α β : Type} [DecidableEq α] (a first : α) (b : β) (rest : List (α × β)) :
    ((first, b) :: rest).lookup a = if a = first then some b else rest.lookup a := by
  by_cases h : a = first
  · rw [if_pos h, h, List.lookup_cons_self]
  · rw [if_neg h, List.lookup_cons, beq_false_of_ne h]

theorem list?_map {α : Type} {read : Json → Option α} {write : α → Json} (h : ∀ a, read (write a) = some a)
    (xs : List α) : list? read (.array (xs.map write)) = some xs := by
  show (xs.map write).mapM read = some xs
  induction xs with
  | nil => rfl
  | cons a xs ih => simp [h, ih]

theorem printable_ofText (s : String) : Printable (ofText s) :=
  .string _

theorem printable_ofNat (n : Nat) : Printable (ofNat n) :=
  .number nofun

theorem printable_ofFields {fields : List (String × Json)} (h : ∀ field ∈ fields, Printable field.2) :
    Printable (ofFields fields) := by
  refine .object fun field hfield => ?_
  obtain ⟨stored, hstored, rfl⟩ := List.mem_map.mp hfield
  exact h stored hstored

theorem printable_map {α : Type} {write : α → Json} (h : ∀ a, Printable (write a)) (xs : List α) :
    Printable (.array (xs.map write)) := by
  refine .array fun v hv => ?_
  obtain ⟨a, -, rfl⟩ := List.mem_map.mp hv
  exact h a

end Json

namespace Octets
variable {n : Nat}

theorem ofJson?_toJson (a : Octets n) : ofJson? n a.toJson = some a := by
  show (read n a.toHex).toOption = some a
  rw [read_toHex]
  rfl

theorem printable_toJson (a : Octets n) : Json.Printable a.toJson :=
  Json.printable_ofText _

end Octets

end CallGuard
