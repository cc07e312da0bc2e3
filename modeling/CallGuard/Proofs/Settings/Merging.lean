import CallGuard.Settings.Path

/-! # What is found in a merged tree

A part that is put into a tree is found there under its name in lowercase: a table lies over the one that was there, and
anything else replaces what was there (`overlay`). Nothing else changes. A value at the end of a path changes the tree only
under the path's head, and within a section only what the next step leads to (`get?_putAt_text`). -/

namespace CallGuard

namespace Setting
variable {target source : Entries} {name other key head : String} {v : Setting} {rest : List Step}

/-- A value that is put where there may be another one. -/
def overlay (old : Option Setting) : Setting → Setting
  | .table incoming => putAll (old.getD (.table [])) incoming
  | v => v

theorem overlay_of_not_table (h : ∀ entries, v ≠ .table entries) (old : Option Setting) : overlay old v = v := by
  cases v with
  | table entries => exact absurd rfl (h entries)
  | _ => rfl

theorem get?_put (target : Entries) (name : String) (v : Setting) (other : String) :
    (put target name v).get? other = if other = lowercase name then some (overlay (target.get? other) v)
      else target.get? other := by
  by_cases h : other = lowercase name
  · subst h
    cases v <;> simp [put, overlay, Entries.get?_set]
  · cases v <;> simp [put, Entries.get?_set, h]

theorem exists_putAll_eq_table (target incoming : Entries) :
    ∃ entries, putAll (.table target) incoming = .table entries := by
  induction incoming generalizing target with
  | nil => exact ⟨target, by rw [putAll]⟩
  | cons entry incoming ih =>
    rw [putAll]
    exact ih _

/-! ## Parts of a table -/

theorem get?_putAll_of_not_mem (h : ∀ entry ∈ source, lowercase entry.1 ≠ key) :
    (putAll (.table target) source).entries.get? key = target.get? key := by
  induction source generalizing target with
  | nil => rw [putAll, entries]
  | cons entry source ih =>
    obtain ⟨hentry, hsource⟩ := List.forall_mem_cons.mp h
    rw [putAll, ih hsource, get?_put, if_neg (Ne.symm hentry)]
    rfl

theorem get?_putAll_of_mem (hdistinct : (source.map (lowercase ·.1)).Nodup) (hmem : (name, v) ∈ source) :
    (putAll (.table target) source).entries.get? (lowercase name) = some (overlay (target.get? (lowercase name)) v) := by
  induction source generalizing target with
  | nil => cases hmem
  | cons entry source ih =>
    rw [List.map_cons, List.nodup_cons] at hdistinct
    have hothers : ∀ other ∈ source, lowercase other.1 ≠ lowercase entry.1 :=
      fun other hother hsame => hdistinct.1 (List.mem_map.mpr ⟨other, hother, hsame⟩)
    rw [putAll]
    rcases List.mem_cons.mp hmem with rfl | hmem
    · rw [get?_putAll_of_not_mem hothers, get?_put, if_pos rfl, entries]
    · rw [ih hdistinct.2 hmem, get?_put, if_neg (hothers _ hmem), entries]

/-! ## Paths -/

/-- The parts of a section. -/
def Entries.within (tree : Entries) (head : String) : Entries :=
  ((tree.get? head).getD .absent).entries

/-- A section that is there is a table. -/
def Entries.IsTable (tree : Entries) (head : String) : Prop :=
  ∀ v, tree.get? head = some v → ∃ entries, v = .table entries

theorem Entries.getD_eq_table {tree : Entries} (h : tree.IsTable head) :
    (tree.get? head).getD (.table []) = .table (tree.within head) := by
  rw [within]
  cases hget : tree.get? head with
  | none => rfl
  | some v =>
    obtain ⟨entries, rfl⟩ := h v hget
    rfl

section
variable {p : Path}

theorem exists_putAt_part (v target : Setting) (name : String) (rest : List Step) :
    ∃ entries, putAt v target (.part name :: rest) = .table entries := by
  cases rest with
  | nil => exact ⟨_, by rw [putAt]⟩
  | cons step rest => exact ⟨_, by rw [putAt]; exact nofun⟩

/-- A text at the end of steps is found behind the first of them, and no other part is changed. -/
theorem get?_putAt_text (x : String) (target : Setting) (name : String) (rest : List Step) (other : String) :
    (putAt (.text x) target (.part name :: rest)).entries.get? other =
      if other = lowercase name then some (putAt (.text x) ((target.entries.get? other).getD .absent) rest)
      else target.entries.get? other := by
  cases rest with
  | nil =>
    rw [putAt, putAt]
    exact get?_put ..
  | cons step rest =>
    have hput : putAt (.text x) target (.part name :: step :: rest) = .table (target.entries.set (lowercase name)
        (putAt (.text x) ((target.entries.get? (lowercase name)).getD .absent) (step :: rest))) := by
      rw [putAt]
      exact nofun
    rw [hput, entries, Entries.get?_set]
    by_cases h : other = lowercase name
    · rw [if_pos h, if_pos h, h]
    · rw [if_neg h, if_neg h]

theorem get?_putPath_other (h : lowercase p.head ≠ head) : (putPath target p v).get? head = target.get? head := by
  rw [putPath]
  cases p.steps with
  | nil =>
    rw [putAt]
    exact (get?_put ..).trans (if_neg (Ne.symm h))
  | cons step rest =>
    rw [putAt]
    · exact (Entries.get?_set ..).trans (if_neg (Ne.symm h))
    · exact nofun

theorem get?_putPath_head (h : p.steps = []) :
    (putPath target p v).get? (lowercase p.head) = some (overlay (target.get? (lowercase p.head)) v) := by
  rw [putPath, h, putAt]
  exact (get?_put ..).trans (if_pos rfl)

theorem get?_putPath_part (h : p.steps = .part name :: rest) :
    (putPath target p v).get? (lowercase p.head) =
      some (putAt v ((target.get? (lowercase p.head)).getD .absent) (.part name :: rest)) := by
  rw [putPath, h, putAt]
  · exact (Entries.get?_set ..).trans (if_pos rfl)
  · exact nofun

/-- Nothing is taken away at the top of a tree. -/
theorem isSome_get?_putPath (h : (target.get? head).isSome) : ((putPath target p v).get? head).isSome := by
  rw [putPath]
  cases p.steps with
  | nil =>
    rw [putAt]
    show ((put target p.head v).get? head).isSome
    rw [get?_put]
    split
    · rfl
    · exact h
  | cons step rest =>
    rw [putAt]
    · show ((Entries.set target _ _).get? head).isSome
      rw [Entries.get?_set]
      split
      · rfl
      · exact h
    · exact nofun

/-! ## Sources -/

theorem putSource_cons (target source : Entries) (name : String) (v : Setting) :
    putSource target ((name, v) :: source) = putSource (putPath target (.ofText name) v) source :=
  rfl

theorem putSource_append (target before after : Entries) :
    putSource target (before ++ after) = putSource (putSource target before) after :=
  List.foldl_append

theorem isSome_get?_putSource (h : (target.get? head).isSome) : ((putSource target source).get? head).isSome := by
  induction source generalizing target with
  | nil => exact h
  | cons entry source ih =>
    rw [putSource_cons]
    exact ih (isSome_get?_putPath h)

theorem get?_putSource_of_not_mem (h : ∀ entry ∈ source, lowercase (Path.ofText entry.1).head ≠ head) :
    (putSource target source).get? head = target.get? head := by
  induction source generalizing target with
  | nil => rfl
  | cons entry source ih =>
    obtain ⟨hentry, hsource⟩ := List.forall_mem_cons.mp h
    rw [putSource_cons, ih hsource, get?_putPath_other hentry]

/-- If one entry of a source leads to what is under a head, and is named like it, it lies over what was there. -/
theorem get?_putSource_of_mem {before after : Entries}
    (hbefore : ∀ entry ∈ before, lowercase (Path.ofText entry.1).head ≠ head)
    (hafter : ∀ entry ∈ after, lowercase (Path.ofText entry.1).head ≠ head) (hsteps : (Path.ofText name).steps = [])
    (hhead : lowercase (Path.ofText name).head = head) :
    (putSource target (before ++ (name, v) :: after)).get? head = some (overlay (target.get? head) v) := by
  subst hhead
  rw [putSource_append, putSource_cons, get?_putSource_of_not_mem hafter, get?_putPath_head hsteps,
    get?_putSource_of_not_mem hbefore]

end

end Setting

end CallGuard
