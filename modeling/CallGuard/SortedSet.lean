import CallGuard.Bytes

/-! # Sorted sets

Finite sets of values that are ordered by the bytes they are written as. A set is kept as its strictly increasing list,
so two sets with the same members are equal (`SortedSet.ext_mem`). -/

namespace CallGuard

/-- Values that are told apart and ordered by the bytes they are written as. -/
class ByteOrdered (α : Type) where
  /-- The bytes of a value. -/
  bytes : α → Bytes
  /-- Different values have different bytes. -/
  bytes_injective : ∀ {a b : α}, bytes a = bytes b → a = b

/-- Whether a value stands before another in byte order. -/
def Precedes {α : Type} [ByteOrdered α] (a b : α) : Prop :=
  ByteOrdered.bytes a < ByteOrdered.bytes b

instance {α : Type} [ByteOrdered α] (a b : α) : Decidable (Precedes a b) :=
  inferInstanceAs (Decidable (ByteOrdered.bytes a < ByteOrdered.bytes b))

namespace Precedes

variable {α : Type} [ByteOrdered α] {a b c : α}

theorem irrefl (a : α) : ¬ Precedes a a :=
  List.lt_irrefl _

theorem trans (hab : Precedes a b) (hbc : Precedes b c) : Precedes a c :=
  List.lt_trans hab hbc

theorem asymm (h : Precedes a b) : ¬ Precedes b a :=
  List.lt_asymm h

theorem trichotomy (a b : α) : Precedes a b ∨ a = b ∨ Precedes b a := by
  by_cases hab : Precedes a b
  · exact .inl hab
  · by_cases hba : Precedes b a
    · exact .inr (.inr hba)
    · exact .inr (.inl (ByteOrdered.bytes_injective (List.le_antisymm (List.not_lt.mp hba) (List.not_lt.mp hab))))

end Precedes

/-- A set of values, kept as the list of its members in byte order. -/
structure SortedSet (α : Type) [ByteOrdered α] where
  /-- The members in byte order. -/
  toList : List α
  /-- Every member stands before those behind it. -/
  sorted : toList.Pairwise Precedes

namespace SortedSet

variable {α : Type} [ByteOrdered α]

/-- The set without members. -/
def empty : SortedSet α := ⟨[], .nil⟩

instance : EmptyCollection (SortedSet α) := ⟨empty⟩

instance : Membership α (SortedSet α) := ⟨fun s a => a ∈ s.toList⟩

@[simp] theorem mem_toList {a : α} {s : SortedSet α} : a ∈ s.toList ↔ a ∈ s := Iff.rfl

@[simp] theorem not_mem_empty (a : α) : a ∉ (∅ : SortedSet α) :=
  List.not_mem_nil

/-- Two strictly increasing lists with the same members are equal. -/
theorem eq_of_mem_iff {xs ys : List α} (hx : xs.Pairwise Precedes) (hy : ys.Pairwise Precedes)
    (h : ∀ a, a ∈ xs ↔ a ∈ ys) : xs = ys := by
  induction xs generalizing ys with
  | nil =>
    cases ys with
    | nil => rfl
    | cons b _ => simpa using (h b).mpr List.mem_cons_self
  | cons a rest ih =>
    cases ys with
    | nil => simpa using (h a).mp List.mem_cons_self
    | cons b rest' =>
      obtain ⟨ha, hrest⟩ := List.pairwise_cons.mp hx
      obtain ⟨hb, hrest'⟩ := List.pairwise_cons.mp hy
      have hab : a = b := by
        rcases List.mem_cons.mp ((h a).mp List.mem_cons_self) with h1 | h1
        · exact h1
        · rcases List.mem_cons.mp ((h b).mpr List.mem_cons_self) with h2 | h2
          · exact h2.symm
          · exact absurd (hb a h1) (ha b h2).asymm
      subst hab
      refine congrArg (a :: ·) (ih hrest hrest' fun c => ?_)
      have hc := h c
      simp only [List.mem_cons] at hc
      constructor
      · intro hmem
        rcases hc.mp (.inr hmem) with rfl | h'
        · exact absurd (ha c hmem) (Precedes.irrefl c)
        · exact h'
      · intro hmem
        rcases hc.mpr (.inr hmem) with rfl | h'
        · exact absurd (hb c hmem) (Precedes.irrefl c)
        · exact h'

/-- Sets with the same members are equal. -/
theorem ext_mem {s t : SortedSet α} (h : ∀ a, a ∈ s ↔ a ∈ t) : s = t := by
  cases s with
  | mk xs hx =>
    cases t with
    | mk ys hy =>
      have : xs = ys := eq_of_mem_iff hx hy h
      subst this
      rfl

variable [DecidableEq α]

instance : DecidableEq (SortedSet α) := fun s t =>
  decidable_of_iff (s.toList = t.toList) (by cases s; cases t; simp)

instance (a : α) (s : SortedSet α) : Decidable (a ∈ s) :=
  inferInstanceAs (Decidable (a ∈ s.toList))

/-- A sorted list with one more member, put in its place unless it is there already. -/
def place (a : α) : List α → List α
  | [] => [a]
  | b :: rest => if a = b then b :: rest else if Precedes a b then a :: b :: rest else b :: place a rest

@[simp] theorem mem_place {a c : α} {xs : List α} : c ∈ place a xs ↔ c = a ∨ c ∈ xs := by
  induction xs with
  | nil => simp [place]
  | cons b rest ih =>
    simp only [place]
    split
    · rename_i h
      subst h
      simp
    · split
      · simp
      · simp [ih, or_left_comm]

theorem sorted_place (a : α) {xs : List α} (h : xs.Pairwise Precedes) : (place a xs).Pairwise Precedes := by
  induction xs with
  | nil => simp [place]
  | cons b rest ih =>
    obtain ⟨hb, hrest⟩ := List.pairwise_cons.mp h
    simp only [place]
    split
    · exact h
    · rename_i hne
      split
      · rename_i hab
        refine List.pairwise_cons.mpr ⟨fun c hc => ?_, h⟩
        rcases List.mem_cons.mp hc with rfl | hc
        · exact hab
        · exact hab.trans (hb c hc)
      · rename_i hab
        refine List.pairwise_cons.mpr ⟨fun c hc => ?_, ih hrest⟩
        rcases mem_place.mp hc with rfl | hc
        · rcases Precedes.trichotomy b c with h' | h' | h'
          · exact h'
          · exact absurd h'.symm hne
          · exact absurd h' hab
        · exact hb c hc

/-- The set with one more member. -/
def insert (s : SortedSet α) (a : α) : SortedSet α :=
  ⟨place a s.toList, sorted_place a s.sorted⟩

/-- The set without one value. -/
def erase (s : SortedSet α) (a : α) : SortedSet α :=
  ⟨s.toList.filter (fun b => b ≠ a), s.sorted.filter _⟩

/-- The set of the values of a list. -/
def ofList (xs : List α) : SortedSet α :=
  xs.foldl insert ∅

@[simp] theorem mem_insert {s : SortedSet α} {a c : α} : c ∈ s.insert a ↔ c = a ∨ c ∈ s :=
  mem_place

@[simp] theorem mem_erase {s : SortedSet α} {a c : α} : c ∈ s.erase a ↔ c ∈ s ∧ c ≠ a := by
  show c ∈ s.toList.filter _ ↔ _
  simp [List.mem_filter]

theorem mem_foldl_insert {xs : List α} {s : SortedSet α} {c : α} : c ∈ xs.foldl insert s ↔ c ∈ xs ∨ c ∈ s := by
  induction xs generalizing s with
  | nil => simp
  | cons a rest ih => simp only [List.foldl_cons, ih, mem_insert, List.mem_cons, or_assoc, or_left_comm]

@[simp] theorem mem_ofList {xs : List α} {c : α} : c ∈ ofList xs ↔ c ∈ xs := by
  simp [ofList, mem_foldl_insert]

end SortedSet

end CallGuard
