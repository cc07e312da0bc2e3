import CallGuard.Proofs.Settings.Path
import CallGuard.Proofs.Text.Ascii
import CallGuard.Settings.Load

/-! # Variables that name settings

The name of a variable that holds a setting begins with `GUARD__`; what follows is a path, in which two underscores
stand for a dot. A setting has two such names, in any case each: the one with two underscores before its key, and the
one with a dot there (`leads_nil_iff`). -/

namespace CallGuard

/-! ## Lowercase -/

/-- A character in lowercase. -/
def lowercaseChar (c : Char) : Char :=
  if c.toNat = 0x212A then 'k' else c.toLower

theorem toList_lowercase (name : String) : (lowercase name).toList = name.toList.map lowercaseChar :=
  String.toList_ofList

theorem lowercaseChar_of_ascii :
    ∀ n < 128, lowercaseChar (lowercaseChar (.ofNat n)) = lowercaseChar (.ofNat n) := by
  decide

theorem lowercaseChar_lowercaseChar (c : Char) : lowercaseChar (lowercaseChar c) = lowercaseChar c := by
  by_cases hascii : c.toNat < 128
  · rw [← Char.ofNat_toNat c]
    exact lowercaseChar_of_ascii _ hascii
  · by_cases hkelvin : c.toNat = 0x212A
    · rw [lowercaseChar, lowercaseChar, if_pos hkelvin]
      rfl
    · have hsame : lowercaseChar c = c := by
        rw [lowercaseChar, if_neg hkelvin, toLower_of_le (Nat.le_of_not_lt hascii)]
      rw [hsame, hsame]

theorem lowercase_eq_self {name : String} (h : ∀ c ∈ name.toList, lowercaseChar c = c) : lowercase name = name := by
  apply String.toList_inj.mp
  rw [toList_lowercase, List.map_congr_left h, List.map_id']

theorem lowercaseChar_of_mem_lowercase {name : String} {c : Char} (h : c ∈ (lowercase name).toList) :
    lowercaseChar c = c := by
  rw [toList_lowercase] at h
  obtain ⟨d, -, rfl⟩ := List.mem_map.mp h
  exact lowercaseChar_lowercaseChar d

namespace Settings
open Setting (Path Step)

/-! ## Underscores and dots -/

theorem lowercaseChar_of_mem_dotted {cs : List Char} (h : ∀ c ∈ cs, lowercaseChar c = c) :
    ∀ c ∈ dotted cs, lowercaseChar c = c := by
  fun_induction dotted cs with
  | case1 rest ih =>
    exact List.forall_mem_cons.mpr ⟨by decide, ih fun c hc => h c (.tail _ (.tail _ hc))⟩
  | case2 c rest hc ih =>
    exact List.forall_mem_cons.mpr ⟨h c List.mem_cons_self, ih fun d hd => h d (.tail _ hd)⟩
  | case3 => exact h

theorem mem_of_mem_dotted {cs : List Char} {c : Char} (h : c ∈ dotted cs) : c = '.' ∨ c ∈ cs := by
  fun_induction dotted cs with
  | case1 rest ih =>
    rcases List.mem_cons.mp h with rfl | h
    · exact .inl rfl
    · exact (ih h).imp_right fun hmem => .tail _ (.tail _ hmem)
  | case2 d rest hd ih =>
    rcases List.mem_cons.mp h with rfl | h
    · exact .inr List.mem_cons_self
    · exact (ih h).imp_right (.tail _)
  | case3 => exact .inr h

/-- A text without a dot is only what it is itself. -/
theorem eq_of_dotted {cs text : List Char} (h : dotted cs = text) (hdot : '.' ∉ text) : cs = text := by
  fun_induction dotted cs generalizing text with
  | case1 rest ih => exact absurd (h ▸ List.mem_cons_self) hdot
  | case2 c rest hc ih =>
    subst h
    exact congrArg _ (ih rfl fun hmem => hdot (.tail _ hmem))
  | case3 => exact h

/-- One dot stands for itself or for two underscores. -/
theorem eq_or_of_dotted {cs before after : List Char} (h : dotted cs = before ++ '.' :: after)
    (hbefore : '.' ∉ before) (hafter : '.' ∉ after) :
    cs = before ++ '_' :: '_' :: after ∨ cs = before ++ '.' :: after := by
  fun_induction dotted cs generalizing before with
  | case1 rest ih =>
    cases before with
    | nil =>
      rw [List.nil_append, List.cons.injEq] at h
      exact .inl (by rw [eq_of_dotted h.2 hafter]; rfl)
    | cons b before =>
      rw [List.cons_append, List.cons.injEq] at h
      exact absurd (h.1 ▸ List.mem_cons_self) hbefore
  | case2 c rest hc ih =>
    cases before with
    | nil =>
      rw [List.nil_append, List.cons.injEq] at h
      exact .inr (by rw [eq_of_dotted h.2 hafter, h.1]; rfl)
    | cons b before =>
      rw [List.cons_append, List.cons.injEq] at h
      rcases ih h.2 fun hmem => hbefore (.tail _ hmem) with hrest | hrest
      · exact .inl (by rw [h.1, hrest]; rfl)
      · exact .inr (by rw [h.1, hrest]; rfl)
  | case3 => cases before <;> cases h

theorem dotted_append {before cs : List Char} (h : '_' ∉ before) : dotted (before ++ cs) = before ++ dotted cs := by
  induction before with
  | nil => rfl
  | cons c before ih =>
    have hc : c ≠ '_' := fun hc => h (hc ▸ List.mem_cons_self)
    rw [List.cons_append, dotted, ih fun hmem => h (.tail _ hmem)]
    · rfl
    · exact fun _ hunder => absurd hunder hc

/-! ## Paths of variables -/

/-- The path that a variable holds the value of, if it holds a setting. -/
def pathOf? (v : String × String) : Option Path :=
  (ofVariable? v).map fun entry => .ofText entry.1

section
variable {v : String × String} {p : Path} {head key : String}

theorem ofVariable?_eq_some {entry : String × Setting} : ofVariable? v = some entry ↔
    ∃ rest, (lowercase v.1).toList = variableStart ++ rest ∧ entry = (String.ofList (dotted rest), .text v.2) := by
  simp only [ofVariable?]
  constructor
  · intro h
    by_cases hstart : (lowercase v.1).toList.take variableStart.length = variableStart
    · rw [if_pos hstart, Option.some_inj] at h
      refine ⟨_, ?_, h.symm⟩
      rw [← List.take_append_drop variableStart.length (lowercase v.1).toList, hstart, List.drop_left]
    · rw [if_neg hstart] at h
      cases h
  · rintro ⟨rest, hname, rfl⟩
    rw [hname, List.take_left, if_pos rfl, List.drop_left]

theorem pathOf?_eq_some : pathOf? v = some p ↔
    ∃ rest, (lowercase v.1).toList = variableStart ++ rest ∧ p = .ofText (String.ofList (dotted rest)) := by
  simp only [pathOf?, Option.map_eq_some_iff, ofVariable?_eq_some]
  constructor
  · rintro ⟨_, ⟨rest, hname, rfl⟩, rfl⟩
    exact ⟨rest, hname, rfl⟩
  · rintro ⟨rest, hname, rfl⟩
    exact ⟨_, ⟨rest, hname, rfl⟩, rfl⟩

theorem lowercaseChar_of_mem_path {rest : List Char} (h : (lowercase v.1).toList = variableStart ++ rest) :
    ∀ c ∈ dotted rest, lowercaseChar c = c :=
  lowercaseChar_of_mem_dotted fun c hc =>
    have hmem : c ∈ (lowercase v.1).toList := h ▸ List.mem_append_right _ hc
    lowercaseChar_of_mem_lowercase hmem

/-! ## Sections and their settings -/

/-- The sections. -/
def sections : List String :=
  ["guard", "bootstrap", "logging"]

/-- The settings, each by its section and its key within it. -/
def places : List (String × String) :=
  [("guard", "governance"), ("guard", "policy_file"), ("guard", "audit_log"), ("bootstrap", "senders"),
    ("bootstrap", "withdraw_destinations"), ("bootstrap", "assets"), ("bootstrap", "tokens"), ("bootstrap", "routers"),
    ("logging", "level"), ("logging", "json")]

theorem head_mem_sections : ∀ place ∈ places, place.1 ∈ sections := by
  decide

theorem dot_not_mem_sections : ∀ head ∈ sections, '.' ∉ head.toList := by
  decide

/-- The name of a variable is that of a whole section. -/
def NamesSection (name : String) : Prop :=
  ∃ head ∈ sections, lowercase name = "guard__" ++ head

/-- The name of a variable is that of a setting. -/
def Names (head key name : String) : Prop :=
  lowercase name = "guard__" ++ head ++ "__" ++ key ∨ lowercase name = "guard__" ++ head ++ "." ++ key

/-- A path leads to a setting, and then takes more steps within it. -/
def Leads (head key : String) (rest : List Step) (p : Path) : Prop :=
  lowercase p.head = head ∧ ∃ name, p.steps = .part name :: rest ∧ lowercase name = key

/-- A variable reaches a setting or something within it. -/
def Reaches (head key : String) (v : String × String) : Prop :=
  ∃ p rest, pathOf? v = some p ∧ Leads head key rest p

/-- A variable goes by the number of an item into a section, or into a list of the policy to begin with. -/
def Counts (v : String × String) : Prop :=
  ∃ p n rest, pathOf? v = some p ∧ (lowercase p.head ∈ sections ∧ p.steps = .item n :: rest ∨
    ∃ key, ("bootstrap", key) ∈ places ∧ Leads "bootstrap" key (.item n :: rest) p)

/-- A variable without a bracket in its name goes nowhere by a number. -/
theorem not_counts (h : '[' ∉ (lowercase v.1).toList) : ¬ Counts v := by
  rintro ⟨p, n, rest, hpath, hitem⟩
  obtain ⟨text, hname, rfl⟩ := pathOf?_eq_some.mp hpath
  have hmem : .item n ∈ (Path.ofText (String.ofList (dotted text))).steps := by
    rcases hitem with ⟨-, hsteps⟩ | ⟨key, -, -, name, hsteps, -⟩ <;> simp [hsteps]
  have hbracket := Path.bracket_mem_of_item hmem
  rw [String.toList_ofList] at hbracket
  rcases mem_of_mem_dotted hbracket with hdot | hbracket
  · cases hdot
  · exact h (hname ▸ List.mem_append_right _ hbracket)

theorem steps_of_sectionName {name : String} (h : lowercase name ∈ sections) : (Path.ofText name).steps = [] := by
  have hplain : ∀ head ∈ sections, '.' ∉ head.toList ∧ '[' ∉ head.toList := by
    decide
  obtain ⟨hdot, hbracket⟩ := hplain _ h
  rw [toList_lowercase] at hdot hbracket
  exact Path.steps_eq_nil (fun hmem => hdot (List.mem_map.mpr ⟨_, hmem, by decide⟩))
    fun hmem => hbracket (List.mem_map.mpr ⟨_, hmem, by decide⟩)

/-- A name is a path into a section. -/
def EntersSection (name : String) : Prop :=
  lowercase (Path.ofText name).head ∈ sections ∧ (Path.ofText name).steps ≠ []

theorem not_entersSection_of_mem {name : String} (h : lowercase name ∈ sections) : ¬ EntersSection name :=
  fun henters => henters.2 (steps_of_sectionName h)

theorem head_of_not_entersSection {name : String} (h : ¬ EntersSection name)
    (hhead : lowercase (Path.ofText name).head ∈ sections) : (Path.ofText name).head = name :=
  Path.head_of_steps_nil (Classical.not_not.mp fun hsteps => h ⟨hhead, hsteps⟩)

/-- A path of a section alone is that of a variable with the section's name. -/
theorem namesSection_of_steps_nil (hpath : pathOf? v = some p) (hsteps : p.steps = [])
    (hhead : lowercase p.head ∈ sections) : NamesSection v.1 := by
  obtain ⟨rest, hname, rfl⟩ := pathOf?_eq_some.mp hpath
  rw [Path.head_of_steps_nil hsteps, lowercase_eq_self
    (by rw [String.toList_ofList]; exact lowercaseChar_of_mem_path hname)] at hhead
  have hdot := dot_not_mem_sections _ hhead
  rw [String.toList_ofList] at hdot
  refine ⟨_, hhead, String.toList_inj.mp ?_⟩
  simp [hname, ← eq_of_dotted rfl hdot, variableStart]

/-- Section and key are names in lowercase, and no underscores in them stand for a dot. -/
structure IsPlace (head key : String) : Prop where
  head_name : Path.IsName head.toList
  key_name : Path.IsName key.toList
  head_lower : lowercase head = head
  key_lower : lowercase key = key
  head_plain : '_' ∉ head.toList
  key_plain : dotted key.toList = key.toList

theorem isPlace_of_mem (h : (head, key) ∈ places) : IsPlace head key := by
  have hnames : ∀ place ∈ places, (place.1.toList ≠ [] ∧ ∀ c ∈ place.1.toList, Path.IsNameChar c = true) ∧
      place.2.toList ≠ [] ∧ ∀ c ∈ place.2.toList, Path.IsNameChar c = true := by
    simp [places, Path.IsNameChar]
  have hlower : ∀ place ∈ places, lowercase place.1 = place.1 ∧ lowercase place.2 = place.2 := by
    decide
  have hplain : ∀ place ∈ places, '_' ∉ place.1.toList ∧ dotted place.2.toList = place.2.toList := by
    decide
  obtain ⟨⟨hhead, hheadChars⟩, hkey, hkeyChars⟩ := hnames _ h
  exact ⟨⟨hhead, hheadChars⟩, ⟨hkey, hkeyChars⟩, (hlower _ h).1, (hlower _ h).2, (hplain _ h).1, (hplain _ h).2⟩

theorem ofText_place (h : (head, key) ∈ places) : Path.ofText (head ++ "." ++ key) = ⟨head, [.part key]⟩ :=
  Path.ofText_dot (isPlace_of_mem h).head_name (isPlace_of_mem h).key_name

theorem not_mem_of_isName {cs : List Char} (h : Path.IsName cs) : '.' ∉ cs :=
  fun hmem => absurd (h.chars _ hmem) (by decide)

/-- The two names of a setting, without what they begin with, are those in which its path is written. -/
theorem dotted_eq_iff (hplace : IsPlace head key) {rest : List Char} :
    dotted rest = head.toList ++ '.' :: key.toList ↔
      rest = head.toList ++ '_' :: '_' :: key.toList ∨ rest = head.toList ++ '.' :: key.toList := by
  constructor
  · exact fun h => eq_or_of_dotted h (not_mem_of_isName hplace.head_name) (not_mem_of_isName hplace.key_name)
  · rintro (rfl | rfl)
    · rw [dotted_append hplace.head_plain, dotted, hplace.key_plain]
    · rw [dotted_append hplace.head_plain, dotted, hplace.key_plain]
      exact nofun

theorem names_iff {rest : List Char} (hname : (lowercase v.1).toList = variableStart ++ rest) :
    Names head key v.1 ↔
      rest = head.toList ++ '_' :: '_' :: key.toList ∨ rest = head.toList ++ '.' :: key.toList := by
  have hlower (text : List Char) {name : String} (htext : name.toList = variableStart ++ text) :
      lowercase v.1 = name ↔ rest = text := by
    rw [← String.toList_inj, hname, htext, List.append_right_inj]
  rw [Names, hlower (head.toList ++ '_' :: '_' :: key.toList) (by simp [variableStart]),
    hlower (head.toList ++ '.' :: key.toList) (by simp [variableStart])]

/-- A variable holds the value of a setting itself exactly if it has one of the setting's names. -/
theorem leads_nil_iff (hplace : IsPlace head key) :
    (∃ p, pathOf? v = some p ∧ Leads head key [] p) ↔ Names head key v.1 := by
  constructor
  · rintro ⟨p, hpath, hhead, name, hsteps, hkey⟩
    obtain ⟨rest, hname, hp⟩ := pathOf?_eq_some.mp hpath
    have htext : dotted rest = p.head.toList ++ '.' :: name.toList := by
      rw [hp] at hsteps
      have hwritten := congrArg String.toList (Path.text_of_steps_part hsteps)
      rw [← hp] at hwritten
      simpa using hwritten
    have hlower := lowercaseChar_of_mem_path hname
    rw [htext] at hlower
    rw [lowercase_eq_self fun c hc => hlower c (by simp [hc])] at hhead hkey
    rw [hhead, hkey] at htext
    exact (names_iff hname).mpr ((dotted_eq_iff hplace).mp htext)
  · intro h
    obtain ⟨rest, hname⟩ : ∃ rest, (lowercase v.1).toList = variableStart ++ rest := by
      rcases h with h | h <;> exact ⟨_, by simp [h, variableStart]; rfl⟩
    have htext : String.ofList (dotted rest) = head ++ "." ++ key := by
      apply String.toList_inj.mp
      rw [String.toList_ofList, (dotted_eq_iff hplace).mpr ((names_iff hname).mp h)]
      simp
    refine ⟨_, pathOf?_eq_some.mpr ⟨rest, hname, rfl⟩, ?_⟩
    rw [htext, Path.ofText_dot hplace.head_name hplace.key_name]
    exact ⟨hplace.head_lower, key, rfl, hplace.key_lower⟩

theorem reaches_of_names (hplace : IsPlace head key) (h : Names head key v.1) : Reaches head key v :=
  let ⟨p, hpath, hleads⟩ := (leads_nil_iff hplace).mpr h
  ⟨p, [], hpath, hleads⟩

end

end Settings

end CallGuard
