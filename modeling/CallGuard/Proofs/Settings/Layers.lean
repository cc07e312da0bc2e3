import CallGuard.Proofs.Outcome
import CallGuard.Proofs.Settings.Merging
import CallGuard.Proofs.Settings.Names
import Mathlib.Data.List.Induction

/-! # Settings in layers

Settings that are loaded come from three layers. A setting has the value of the last variable that has one of its names;
if no variable reaches it, it has the value that the file holds for it; and if that has none either, its default
(`Given`).

The proof follows one setting through the variables, last one first: a variable that reaches the setting decides what is
found there, and any other leaves it alone (`part_tree_iff`). This needs every section to be a table all along, and so
does not hold of variables that go into a section, or into a list, by the number of an item (`Counts`). -/

namespace CallGuard

/-- A file holds a value for a setting, the names of its section and its key being in any case. -/
def Toml.Entries.Holds (file : Toml.Entries) (head key : String) (node : Toml.Node) : Prop :=
  ∃ sectionName origin inner name, (sectionName, .table origin inner) ∈ file ∧ lowercase sectionName = head ∧
    (name, node) ∈ inner ∧ lowercase name = key

section
variable {α : Type} {parts : String → Option Setting} {name : String} {v : Setting} {default : α}
  {read : Setting → Option α}

theorem Setting.part_of_some (h : parts name = some v) : part parts name default read = read v := by
  simp [part, h]

theorem Setting.part_of_none (h : parts name = none) : part parts name default read = some default := by
  simp [part, h]

end

namespace Settings
open Setting (Path Step)

/-- The sections of a file are tables, and names that are equal up to case stand neither side by side at the top of the
    file nor in one of the tables there. -/
structure Sectioned (file : Toml.Entries) : Prop where
  tables : ∀ name node, (name, node) ∈ file → lowercase name ∈ sections → ∃ origin inner, node = .table origin inner
  distinct : (file.map (lowercase ·.1)).Nodup
  distinctWithin : ∀ name origin inner, (name, .table origin inner) ∈ file → (inner.map (lowercase ·.1)).Nodup

/-- What the layers give for a setting. A table without entries in the place of a setting takes nothing away from its
    default, if that is in the tree. -/
inductive Given {α : Type} (file : Toml.Entries) (env : Environment) (head key : String) (read : Setting → Option α)
    (default : α) : α → Prop
  | ofVariable {before v after x} (hsplit : env = before ++ v :: after) (hnames : Names head key v.1)
      (hlast : ∀ w ∈ after, ¬ Reaches head key w) (hread : read (.text v.2) = some x) :
      Given file env head key read default x
  | ofFile {node x} (hunset : ∀ v ∈ env, ¬ Reaches head key v) (hholds : file.Holds head key node)
      (hread : read (.ofToml node) = some x) : Given file env head key read default x
  | ofEmpty {origin v} (hunset : ∀ v ∈ env, ¬ Reaches head key v) (hholds : file.Holds head key (.table origin []))
      (hpreset : (defaults.within head).get? key = some v) : Given file env head key read default default
  | ofDefault (hunset : ∀ v ∈ env, ¬ Reaches head key v) (hnone : ∀ node, ¬ file.Holds head key node) :
      Given file env head key read default default

/-! ## The tree that the layers make -/

theorem defaults_eq : defaults =
    [("guard", .table [("policy_file", .text "policy.json"), ("audit_log", .text "audit.jsonl")]),
      ("logging", .table [("level", .text "info")])] := by
  have hpolicyFile := ofText_place (show ("guard", "policy_file") ∈ places by decide)
  have hauditLog := ofText_place (show ("guard", "audit_log") ∈ places by decide)
  have hlogLevel := ofText_place (show ("logging", "level") ∈ places by decide)
  simp only [String.reduceAppend] at hpolicyFile hauditLog hlogLevel
  simp only [defaults, Setting.putSource_cons, hpolicyFile, hauditLog, hlogLevel]
  rfl

theorem isTable_defaults (head : String) : defaults.IsTable head := by
  intro v h
  rw [defaults_eq, Setting.Entries.get?] at h
  obtain ⟨entry, hfind, rfl⟩ := Option.map_eq_some_iff.mp h
  have hmem := List.mem_of_find?_eq_some hfind
  simp only [List.mem_cons, List.not_mem_nil, or_false] at hmem
  rcases hmem with rfl | rfl <;> exact ⟨_, rfl⟩

section
variable {source : Setting.Entries} {file : Toml.Entries} {env : Environment} {v : String × String} {p : Path}
  {head key : String} {rest : List Step}

theorem tree_nil : tree source [] = Setting.putSource defaults source := by
  rw [tree, List.filterMap_nil, Setting.putSource, List.foldl_nil]

theorem tree_concat : tree source (env ++ [v]) =
    match pathOf? v with
    | none => tree source env
    | some p => Setting.putPath (tree source env) p (.text v.2) := by
  rw [tree, List.filterMap_append, Setting.putSource, List.foldl_append]
  cases h : ofVariable? v with
  | none => simp [h, pathOf?, tree, Setting.putSource]
  | some entry =>
    obtain ⟨_, _, rfl⟩ := ofVariable?_eq_some.mp h
    simp [h, pathOf?, tree, Setting.putSource]

theorem tree_concat_of_path (h : pathOf? v = some p) :
    tree source (env ++ [v]) = Setting.putPath (tree source env) p (.text v.2) := by
  rw [tree_concat, h]

theorem ofTomlEntries_eq_map (entries : Toml.Entries) :
    Setting.ofTomlEntries entries = entries.map fun entry => (entry.1, .ofToml entry.2) := by
  induction entries with
  | nil => rw [Setting.ofTomlEntries]; rfl
  | cons entry entries ih => rw [Setting.ofTomlEntries, ih]; rfl

/-! ## What the file leaves in a section -/

/-- The table of a section lies over the defaults of the section. -/
theorem get?_tree_of_section (hfile : Sectioned file) (hdirect : ∀ entry ∈ file, ¬ EntersSection entry.1)
    {name : String} {origin : Toml.Origin} {inner : Toml.Entries} (hmem : (name, .table origin inner) ∈ file)
    (hname : lowercase name ∈ sections) :
    (tree (Setting.ofTomlEntries file) []).get? (lowercase name) =
      some (Setting.putAll (.table (defaults.within (lowercase name))) (Setting.ofTomlEntries inner)) := by
  -- No other entry leads there: it would have the name of the section, up to case.
  obtain ⟨before, after, rfl⟩ := List.append_of_mem hmem
  have hdistinct := hfile.distinct
  rw [List.map_append, List.map_cons, List.perm_middle.nodup_iff, List.nodup_cons, ← List.map_append] at hdistinct
  have hothers : ∀ entry ∈ before ++ after, lowercase (Path.ofText entry.1).head ≠ lowercase name := by
    intro entry hentry hsame
    have hin : entry ∈ before ++ (name, .table origin inner) :: after := by
      rcases List.mem_append.mp hentry with h | h
      · exact List.mem_append_left _ h
      · exact List.mem_append_right _ (.tail _ h)
    rw [← hsame] at hname
    rw [head_of_not_entersSection (hdirect entry hin) hname] at hsame
    exact hdistinct.1 (List.mem_map.mpr ⟨entry, hentry, hsame⟩)
  have hsteps := steps_of_sectionName hname
  have hhead : lowercase (Path.ofText name).head = lowercase name := by
    rw [Path.head_of_steps_nil hsteps]
  rw [tree_nil, ← Setting.Entries.getD_eq_table (isTable_defaults _), ofTomlEntries_eq_map, List.map_append,
    List.map_cons, Setting.ofToml]
  refine Setting.get?_putSource_of_mem ?_ ?_ hsteps hhead
  · exact List.forall_mem_map.mpr fun entry hentry => hothers entry (List.mem_append_left _ hentry)
  · exact List.forall_mem_map.mpr fun entry hentry => hothers entry (List.mem_append_right _ hentry)

theorem get?_tree_of_no_section (hdirect : ∀ entry ∈ file, ¬ EntersSection entry.1) (hhead : head ∈ sections)
    (h : ∀ entry ∈ file, lowercase entry.1 ≠ head) :
    (tree (Setting.ofTomlEntries file) []).get? head = defaults.get? head := by
  rw [tree_nil, ofTomlEntries_eq_map]
  refine Setting.get?_putSource_of_not_mem (List.forall_mem_map.mpr fun entry hentry hsame => ?_)
  rw [← hsame] at hhead
  rw [head_of_not_entersSection (hdirect entry hentry) hhead] at hsame
  exact h entry hentry hsame

/-! ## What the file gives for a setting -/

/-- What the file holds for a setting lies over the default. -/
theorem get?_within_of_holds (hfile : Sectioned file) (hdirect : ∀ entry ∈ file, ¬ EntersSection entry.1)
    (hhead : head ∈ sections) {node : Toml.Node} (h : file.Holds head key node) :
    ((tree (Setting.ofTomlEntries file) []).within head).get? key =
      some (Setting.overlay ((defaults.within head).get? key) (.ofToml node)) := by
  obtain ⟨sectionName, origin, inner, name, hsection, rfl, hname, rfl⟩ := h
  have hdistinct := hfile.distinctWithin _ _ _ hsection
  rw [Setting.Entries.within, get?_tree_of_section hfile hdirect hsection hhead, ofTomlEntries_eq_map]
  refine Setting.get?_putAll_of_mem ?_ (List.mem_map.mpr ⟨_, hname, rfl⟩)
  rw [List.map_map]
  exact hdistinct

theorem get?_within_of_not_holds (hfile : Sectioned file) (hdirect : ∀ entry ∈ file, ¬ EntersSection entry.1)
    (hhead : head ∈ sections) (h : ∀ node, ¬ file.Holds head key node) :
    ((tree (Setting.ofTomlEntries file) []).within head).get? key = (defaults.within head).get? key := by
  by_cases hsection : ∃ entry ∈ file, lowercase entry.1 = head
  · obtain ⟨⟨sectionName, table⟩, hentry, rfl⟩ := hsection
    obtain ⟨origin, inner, rfl⟩ := hfile.tables _ _ hentry hhead
    rw [Setting.Entries.within, get?_tree_of_section hfile hdirect hentry hhead, ofTomlEntries_eq_map]
    refine Setting.get?_putAll_of_not_mem (List.forall_mem_map.mpr fun entry hin hname => ?_)
    exact h entry.2 ⟨sectionName, origin, inner, entry.1, hentry, rfl, hin, hname⟩
  · have hnone : ∀ entry ∈ file, lowercase entry.1 ≠ head := fun entry hin hname => hsection ⟨entry, hin, hname⟩
    rw [Setting.Entries.within, get?_tree_of_no_section hdirect hhead hnone]
    rfl

end

/-- How a setting is read: its default is what the defaults have for it, if they have anything, and neither a table nor,
    outside of the lists, a list is read as a value. -/
structure IsRead {α : Type} (head key : String) (read : Setting → Option α) (default : α) : Prop where
  place : (head, key) ∈ places
  preset : ∀ v, (defaults.within head).get? key = some v → read v = some default
  of_table : ∀ entries, read (.table entries) = none
  of_list : head = "bootstrap" ∨ ∀ items, read (.list items) = none

section
variable {α : Type} {head key : String} {read : Setting → Option α} {default x : α} {file : Toml.Entries}
  {env : Environment} {v : String × String}

/-- A value of the file is read as it stands; only a table without entries leaves what is below it. -/
theorem read_overlay_iff (hread : IsRead head key read default) {node : Toml.Node} :
    read (Setting.overlay ((defaults.within head).get? key) (.ofToml node)) = some x ↔
      read (.ofToml node) = some x ∨
        (∃ origin, node = .table origin []) ∧ (∃ v, (defaults.within head).get? key = some v) ∧ x = default := by
  have hpreset := hread.preset
  generalize (defaults.within head).get? key = preset at hpreset ⊢
  cases node with
  | table origin inner =>
    rw [Setting.ofToml, Setting.overlay, hread.of_table]
    cases inner with
    | nil =>
      -- Nothing is put into the default, which need not be a table.
      rw [Setting.ofTomlEntries, Setting.putAll]
      cases preset with
      | none => simp [hread.of_table]
      | some v => simp [hpreset v rfl, eq_comm]
    | cons entry inner =>
      obtain ⟨entries, htable⟩ := Setting.exists_putAll_eq_table
        (Setting.put (preset.getD (.table [])).entries entry.1 (.ofToml entry.2)) (Setting.ofTomlEntries inner)
      rw [Setting.ofTomlEntries, Setting.putAll, htable, hread.of_table]
      simp
  | _ =>
    rw [Setting.overlay_of_not_table (by simp [Setting.ofToml])]
    simp

theorem part_nil_of_not_holds (hfile : Sectioned file) (hdirect : ∀ entry ∈ file, ¬ EntersSection entry.1)
    (hread : IsRead head key read default) (h : ∀ node, ¬ file.Holds head key node) :
    Setting.part ((tree (Setting.ofTomlEntries file) []).within head).get? key default read = some default := by
  have hget := get?_within_of_not_holds hfile hdirect (head_mem_sections _ hread.place) h
  cases hpreset : (defaults.within head).get? key with
  | none => exact Setting.part_of_none (hget.trans hpreset)
  | some v => exact (Setting.part_of_some (hget.trans hpreset)).trans (hread.preset v hpreset)

theorem part_nil_of_holds (hfile : Sectioned file) (hdirect : ∀ entry ∈ file, ¬ EntersSection entry.1)
    (hread : IsRead head key read default) {node : Toml.Node} (h : file.Holds head key node) :
    Setting.part ((tree (Setting.ofTomlEntries file) []).within head).get? key default read = some x ↔
      read (.ofToml node) = some x ∨
        (∃ origin, node = .table origin []) ∧ (∃ v, (defaults.within head).get? key = some v) ∧ x = default := by
  have hget := get?_within_of_holds hfile hdirect (head_mem_sections _ hread.place) h
  rw [Setting.part_of_some hget, read_overlay_iff hread]

theorem part_nil_iff (hfile : Sectioned file) (hdirect : ∀ entry ∈ file, ¬ EntersSection entry.1)
    (hread : IsRead head key read default) :
    Setting.part ((tree (Setting.ofTomlEntries file) []).within head).get? key default read = some x ↔
      Given file [] head key read default x := by
  constructor
  · intro h
    by_cases hheld : ∃ node, file.Holds head key node
    · obtain ⟨node, hnode⟩ := hheld
      rcases (part_nil_of_holds hfile hdirect hread hnode).mp h with hvalue | ⟨⟨origin, rfl⟩, ⟨v, hpreset⟩, rfl⟩
      · exact .ofFile nofun hnode hvalue
      · exact .ofEmpty nofun hnode hpreset
    · have hnone : ∀ node, ¬ file.Holds head key node := fun node hnode => hheld ⟨node, hnode⟩
      obtain rfl := Option.some_inj.mp ((part_nil_of_not_holds hfile hdirect hread hnone).symm.trans h)
      exact .ofDefault nofun hnone
  · intro h
    cases h with
    | ofVariable hsplit => cases (List.append_eq_nil_iff.mp hsplit.symm).2
    | ofFile _ hholds hvalue => exact (part_nil_of_holds hfile hdirect hread hholds).mpr (.inl hvalue)
    | ofEmpty _ hholds hpreset =>
      exact (part_nil_of_holds hfile hdirect hread hholds).mpr (.inr ⟨⟨_, rfl⟩, ⟨_, hpreset⟩, rfl⟩)
    | ofDefault _ hnone => exact part_nil_of_not_holds hfile hdirect hread hnone

/-! ## One more variable -/

theorem concat_eq_append_cons {β : Type} {xs before after : List β} {x y : β}
    (h : xs ++ [x] = before ++ y :: after) :
    after = [] ∧ y = x ∨ ∃ after', after = after' ++ [x] ∧ xs = before ++ y :: after' := by
  rcases List.eq_nil_or_concat after with rfl | ⟨after', z, rfl⟩
  · obtain ⟨-, hlast⟩ := List.append_inj' h rfl
    exact .inl ⟨rfl, (List.singleton_inj.mp hlast).symm⟩
  · rw [List.concat_eq_append, ← List.cons_append, ← List.append_assoc] at h
    obtain ⟨hfirst, hlast⟩ := List.append_inj' h rfl
    obtain rfl := List.singleton_inj.mp hlast
    exact .inr ⟨after', List.concat_eq_append, hfirst⟩

/-- A variable that reaches a setting decides it. -/
theorem given_concat_of_reaches (hreaches : Reaches head key v) :
    Given file (env ++ [v]) head key read default x ↔ Names head key v.1 ∧ read (.text v.2) = some x := by
  have hreached : ¬ ∀ w ∈ env ++ [v], ¬ Reaches head key w := fun h => h v (by simp) hreaches
  constructor
  · intro h
    cases h with
    | ofVariable hsplit hnames hlast hvalue =>
      rcases concat_eq_append_cons hsplit with ⟨-, rfl⟩ | ⟨after, rfl, -⟩
      · exact ⟨hnames, hvalue⟩
      · exact absurd hreaches (hlast v (by simp))
    | ofFile hunset => exact absurd hunset hreached
    | ofEmpty hunset => exact absurd hunset hreached
    | ofDefault hunset => exact absurd hunset hreached
  · rintro ⟨hnames, hvalue⟩
    exact .ofVariable rfl hnames nofun hvalue

/-- A variable that does not reach a setting makes no difference to it. -/
theorem given_concat_of_not_reaches (hplace : IsPlace head key) (h : ¬ Reaches head key v) :
    Given file (env ++ [v]) head key read default x ↔ Given file env head key read default x := by
  have hconcat {ws : Environment} : (∀ w ∈ ws ++ [v], ¬ Reaches head key w) ↔ ∀ w ∈ ws, ¬ Reaches head key w := by
    simp only [List.forall_mem_append, List.forall_mem_singleton, and_iff_left h]
  constructor
  · intro hgiven
    cases hgiven with
    | ofVariable hsplit hnames hlast hvalue =>
      rcases concat_eq_append_cons hsplit with ⟨-, rfl⟩ | ⟨after, rfl, henv⟩
      · exact absurd (reaches_of_names hplace hnames) h
      · exact .ofVariable henv hnames (hconcat.mp hlast) hvalue
    | ofFile hunset hholds hvalue => exact .ofFile (hconcat.mp hunset) hholds hvalue
    | ofEmpty hunset hholds hpreset => exact .ofEmpty (hconcat.mp hunset) hholds hpreset
    | ofDefault hunset hnone => exact .ofDefault (hconcat.mp hunset) hnone
  · intro hgiven
    cases hgiven with
    | @ofVariable before w after _ hsplit hnames hlast hvalue =>
      have hsplit' : env ++ [v] = before ++ w :: (after ++ [v]) := by simp [hsplit]
      exact .ofVariable hsplit' hnames (hconcat.mpr hlast) hvalue
    | ofFile hunset hholds hvalue => exact .ofFile (hconcat.mpr hunset) hholds hvalue
    | ofEmpty hunset hholds hpreset => exact .ofEmpty (hconcat.mpr hunset) hholds hpreset
    | ofDefault hunset hnone => exact .ofDefault (hconcat.mpr hunset) hnone

section
variable {source : Setting.Entries} {p : Path} {rest : List Step}

theorem exists_part (hwhole : ¬ NamesSection v.1) (hcounts : ¬ Counts v) (hpath : pathOf? v = some p)
    (hhead : lowercase p.head ∈ sections) : ∃ name rest, p.steps = .part name :: rest := by
  cases hsteps : p.steps with
  | nil => exact absurd (namesSection_of_steps_nil hpath hsteps hhead) hwhole
  | cons step rest =>
    cases step with
    | part name => exact ⟨name, rest, rfl⟩
    | item n => exact absurd ⟨p, n, rest, hpath, .inl ⟨hhead, hsteps⟩⟩ hcounts

theorem get?_within_concat_of_leads (hpath : pathOf? v = some p) (hleads : Leads head key rest p) :
    ((tree source (env ++ [v])).within head).get? key =
      some (Setting.putAt (.text v.2) ((((tree source env).within head).get? key).getD .absent) rest) := by
  obtain ⟨rfl, name, hsteps, rfl⟩ := hleads
  rw [tree_concat_of_path hpath, Setting.Entries.within, Setting.get?_putPath_part hsteps]
  exact (Setting.get?_putAt_text ..).trans (if_pos rfl)

theorem get?_within_concat_of_not_reaches (source : Setting.Entries) (env : Environment) (hhead : head ∈ sections)
    (hwhole : ¬ NamesSection v.1) (hcounts : ¬ Counts v) (h : ¬ Reaches head key v) :
    ((tree source (env ++ [v])).within head).get? key = ((tree source env).within head).get? key := by
  cases hpath : pathOf? v with
  | none => rw [tree_concat, hpath]
  | some p =>
    rw [tree_concat_of_path hpath]
    by_cases hsame : lowercase p.head = head
    · subst hsame
      obtain ⟨name, rest, hsteps⟩ := exists_part hwhole hcounts hpath hhead
      have hkey : key ≠ lowercase name := fun hkey => h ⟨p, rest, hpath, rfl, name, hsteps, hkey.symm⟩
      rw [Setting.Entries.within, Setting.get?_putPath_part hsteps]
      exact (Setting.get?_putAt_text ..).trans (if_neg hkey)
    · rw [Setting.Entries.within, Setting.get?_putPath_other hsame]
      rfl

theorem isTable_concat (hhead : head ∈ sections) (hwhole : ¬ NamesSection v.1) (hcounts : ¬ Counts v)
    (h : (tree source env).IsTable head) : (tree source (env ++ [v])).IsTable head := by
  cases hpath : pathOf? v with
  | none => rwa [tree_concat, hpath]
  | some p =>
    rw [tree_concat_of_path hpath]
    by_cases hsame : lowercase p.head = head
    · subst hsame
      obtain ⟨name, rest, hsteps⟩ := exists_part hwhole hcounts hpath hhead
      intro w hw
      obtain ⟨entries, htable⟩ := Setting.exists_putAt_part (.text v.2)
        (((tree source env).get? (lowercase p.head)).getD .absent) name rest
      rw [Setting.get?_putPath_part hsteps, htable, Option.some_inj] at hw
      exact ⟨entries, hw.symm⟩
    · intro w hw
      rw [Setting.get?_putPath_other hsame] at hw
      exact h w hw

end

/-- What a variable leaves where it reaches a setting is read only if it is the value of the setting itself. -/
theorem read_putAt_iff (hread : IsRead head key read default) (hcounts : ¬ Counts v) {p : Path} {rest : List Step}
    {old : Setting} (hpath : pathOf? v = some p) (hleads : Leads head key rest p) :
    read (Setting.putAt (.text v.2) old rest) = some x ↔ Names head key v.1 ∧ read (.text v.2) = some x := by
  have hnames : Names head key v.1 → rest = [] := by
    intro h
    obtain ⟨p', hpath', -, name', hsteps', -⟩ := (leads_nil_iff (isPlace_of_mem hread.place)).mpr h
    obtain ⟨-, name, hsteps, -⟩ := hleads
    obtain rfl := Option.some_inj.mp (hpath.symm.trans hpath')
    cases hsteps.symm.trans hsteps'
    rfl
  cases rest with
  | nil => simp [Setting.putAt, (leads_nil_iff (isPlace_of_mem hread.place)).mp ⟨p, hpath, hleads⟩]
  | cons step rest =>
    -- More steps leave a table or a list, and only the lists of the policy to begin with are read from one.
    have hnone : read (Setting.putAt (.text v.2) old (step :: rest)) = none := by
      cases step with
      | part name =>
        obtain ⟨entries, htable⟩ := Setting.exists_putAt_part (.text v.2) old name rest
        rw [htable, hread.of_table]
      | item n =>
        rw [Setting.putAt]
        rcases hread.of_list with rfl | hlist
        · exact absurd ⟨p, n, rest, hpath, .inr ⟨key, hread.place, hleads⟩⟩ hcounts
        · exact hlist _
    rw [hnone]
    constructor
    · intro h
      cases h
    · rintro ⟨h, -⟩
      cases hnames h

/-! ## All variables -/

theorem part_tree_iff (hfile : Sectioned file) (hdirect : ∀ entry ∈ file, ¬ EntersSection entry.1)
    (hread : IsRead head key read default) (hwhole : ∀ v ∈ env, ¬ NamesSection v.1) (hcounts : ∀ v ∈ env, ¬ Counts v) :
    Setting.part ((tree (Setting.ofTomlEntries file) env).within head).get? key default read = some x ↔
      Given file env head key read default x := by
  have hplace := isPlace_of_mem hread.place
  have hhead := head_mem_sections _ hread.place
  -- Variables are put into the tree in order, so that the last one is looked at first.
  induction env using List.reverseRecOn with
  | nil => exact part_nil_iff hfile hdirect hread
  | append_singleton env v ih =>
    rw [List.forall_mem_append, List.forall_mem_singleton] at hwhole hcounts
    by_cases hreaches : Reaches head key v
    · rw [given_concat_of_reaches hreaches]
      obtain ⟨p, rest, hpath, hleads⟩ := hreaches
      rw [Setting.part_of_some (get?_within_concat_of_leads hpath hleads)]
      exact read_putAt_iff hread hcounts.2 hpath hleads
    · have hsame := get?_within_concat_of_not_reaches (Setting.ofTomlEntries file) env hhead hwhole.2 hcounts.2 hreaches
      rw [given_concat_of_not_reaches hplace hreaches, Setting.part, hsame]
      exact ih hwhole.1 hcounts.1

theorem isTable_tree (hfile : Sectioned file) (hdirect : ∀ entry ∈ file, ¬ EntersSection entry.1)
    (hhead : head ∈ sections) (hwhole : ∀ v ∈ env, ¬ NamesSection v.1) (hcounts : ∀ v ∈ env, ¬ Counts v) :
    (tree (Setting.ofTomlEntries file) env).IsTable head := by
  induction env using List.reverseRecOn with
  | nil =>
    by_cases hsection : ∃ entry ∈ file, lowercase entry.1 = head
    · obtain ⟨⟨name, table⟩, hentry, rfl⟩ := hsection
      obtain ⟨origin, inner, rfl⟩ := hfile.tables _ _ hentry hhead
      intro v hv
      obtain ⟨entries, htable⟩ := Setting.exists_putAll_eq_table (defaults.within (lowercase name))
        (Setting.ofTomlEntries inner)
      rw [get?_tree_of_section hfile hdirect hentry hhead, htable, Option.some_inj] at hv
      exact ⟨entries, hv.symm⟩
    · intro v hv
      have hnone : ∀ entry ∈ file, lowercase entry.1 ≠ head := fun entry hin hname => hsection ⟨entry, hin, hname⟩
      rw [get?_tree_of_no_section hdirect hhead hnone] at hv
      exact isTable_defaults head v hv
  | append_singleton env v ih =>
    rw [List.forall_mem_append, List.forall_mem_singleton] at hwhole hcounts
    exact isTable_concat hhead hwhole.2 hcounts.2 (ih hwhole.1 hcounts.1)

end

end Settings

end CallGuard
