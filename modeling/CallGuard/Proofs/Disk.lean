import CallGuard.Disk
import CallGuard.Proofs.Outcome

/-! # Files on a disk

Where a path can be followed, it leads to a place that does not depend on the disk (`locate_eq_ok`). Writing and making
folders take no folder away, so a path that could be followed still can (`locate_of_keeps`), and what is written
to a file is what is read from it, until something is written to its place (`target_put`, `target_of_keeps`,
`read_eq_ok`). -/

namespace CallGuard.Disk

/-- The place that a name leads to from a place. -/
def enter (place : Location) (name : String) : Location :=
  if name = ".." then place.dropLast else place ++ [name]

/-- The place that a path leads to wherever it can be followed. -/
def placeOf (path : String) : Location :=
  (names path).foldl enter []

/-- The text of the file at a place, empty where there is no file. -/
def textAt (d : Disk) (place : Location) : String :=
  match d place with
  | some (.file text) => text
  | _ => ""

/-- Every folder of the first disk is one of the second. -/
def KeepsFolders (d d' : Disk) : Prop :=
  ∀ place, d place = some .folder → d' place = some .folder

/-- The second disk is the first with more folders, where nothing was. -/
def AddsFolders (d d' : Disk) : Prop :=
  ∀ place, d' place = d place ∨ d place = none ∧ d' place = some .folder

section
variable {d d' d'' : Disk} {path : String} {place : Location} {text : String}

theorem KeepsFolders.refl (d : Disk) : KeepsFolders d d :=
  fun _ h => h

theorem AddsFolders.keeps (h : AddsFolders d d') : KeepsFolders d d' := by
  intro place hplace
  rcases h place with hsame | ⟨hnone, -⟩
  · rw [hsame, hplace]
  · rw [hplace] at hnone
    cases hnone

theorem AddsFolders.file (h : AddsFolders d d') (hfile : d place = some (.file text)) :
    d' place = some (.file text) := by
  rcases h place with hsame | ⟨hnone, -⟩
  · rw [hsame, hfile]
  · rw [hfile] at hnone
    cases hnone

theorem AddsFolders.file_of_file (h : AddsFolders d d') (hfile : d' place = some (.file text)) :
    d place = some (.file text) := by
  rcases h place with hsame | ⟨-, hfolder⟩
  · rw [← hsame, hfile]
  · rw [hfile] at hfolder
    cases hfolder

theorem AddsFolders.trans (h : AddsFolders d d') (h' : AddsFolders d' d'') : AddsFolders d d'' := by
  intro place
  rcases h place with hsame | ⟨hnone, hfolder⟩
  · rw [← hsame]
    exact h' place
  · exact .inr ⟨hnone, h'.keeps place hfolder⟩

theorem put_same (d : Disk) (place : Location) (item : Item) : d.put place item place = some item :=
  if_pos rfl

theorem put_other {other : Location} (h : other ≠ place) (d : Disk) (item : Item) : d.put place item other = d other :=
  if_neg h

theorem put_put (d : Disk) (place : Location) (item item' : Item) :
    (d.put place item).put place item' = d.put place item' := by
  funext other
  by_cases h : other = place
  · rw [h, put_same, put_same]
  · rw [put_other h, put_other h, put_other h]

theorem keepsFolders_put (h : d place ≠ some .folder) (item : Item) : KeepsFolders d (d.put place item) := by
  intro other hother
  rw [put_other ?_, hother]
  rintro rfl
  exact h hother

theorem addsFolders_put (h : d place = none) : AddsFolders d (d.put place .folder) := by
  intro other
  by_cases hother : other = place
  · rw [hother]
    exact .inr ⟨h, put_same d place .folder⟩
  · exact .inl (put_other hother d .folder)

theorem textAt_put_same (d : Disk) (place : Location) (text : String) :
    (d.put place (.file text)).textAt place = text := by
  rw [textAt, put_same]

theorem textAt_put_other {other : Location} (h : other ≠ place) (d : Disk) (item : Item) :
    (d.put place item).textAt other = d.textAt other := by
  rw [textAt, put_other h, textAt]

theorem AddsFolders.textAt (h : AddsFolders d d') (place : Location) : d'.textAt place = d.textAt place := by
  rw [Disk.textAt, Disk.textAt]
  rcases h place with hsame | ⟨hnone, hfolder⟩
  · rw [hsame]
  · rw [hnone, hfolder]

/-! ## Following paths -/

theorem follow_eq_ok {start : Location} {names : List String} (h : d.follow start names = .ok place) :
    place = names.foldl enter start := by
  induction names generalizing start with
  | nil => exact (Except.ok.inj h).symm
  | cons name rest ih =>
    obtain ⟨_, -, hrest⟩ := Outcome.bind_eq_ok.mp h
    exact ih hrest

theorem follow_of_keeps {start : Location} {names : List String} (hkeeps : KeepsFolders d d')
    (h : d.follow start names = .ok place) : d'.follow start names = .ok place := by
  induction names generalizing start with
  | nil => exact h
  | cons name rest ih =>
    obtain ⟨_, hfolder, hrest⟩ := Outcome.bind_eq_ok.mp h
    refine Outcome.bind_eq_ok.mpr ⟨(), ?_, ih hrest⟩
    rw [needFolder] at hfolder ⊢
    split at hfolder
    case h_1 hstart => rw [hkeeps start hstart]
    all_goals cases hfolder

theorem locate_eq_ok (h : d.locate path = .ok place) : place = placeOf path := by
  rw [locate] at h
  split at h
  · cases h
  · split at h
    · cases h
    · exact follow_eq_ok h

theorem locate_of_keeps (hkeeps : KeepsFolders d d') (h : d.locate path = .ok place) : d'.locate path = .ok place := by
  rw [locate] at h ⊢
  split at h
  · cases h
  · rename_i hnul
    rw [if_neg hnul]
    split at h
    · cases h
    · rename_i hempty
      rw [if_neg hempty]
      exact follow_of_keeps hkeeps h

/-! ## Reading and writing files -/

theorem target_eq_ok : d.target path = .ok (place, text) ↔
    d.locate path = .ok place ∧ namesFolder path = false ∧
      (d place = some (.file text) ∨ d place = none ∧ text = "") := by
  constructor
  · intro h
    obtain ⟨found, hlocate, hrest⟩ := Outcome.bind_eq_ok.mp h
    cases hfolder : namesFolder path with
    | true =>
      rw [hfolder] at hrest
      cases hrest
    | false =>
      rw [hfolder] at hrest
      cases hitem : d found with
      | none =>
        simp only [hitem] at hrest
        cases hrest
        exact ⟨hlocate, rfl, .inr ⟨hitem, rfl⟩⟩
      | some item =>
        cases item with
        | folder =>
          simp only [hitem] at hrest
          cases hrest
        | file old =>
          simp only [hitem] at hrest
          cases hrest
          exact ⟨hlocate, rfl, .inl hitem⟩
  · rintro ⟨hlocate, hfolder, hitem⟩
    refine Outcome.bind_eq_ok.mpr ⟨place, hlocate, ?_⟩
    rw [hfolder]
    rcases hitem with hfile | ⟨hnone, rfl⟩
    · simp only [hfile]
      rfl
    · simp only [hnone]
      rfl

theorem placeOf_of_target (h : d.target path = .ok (place, text)) : place = placeOf path :=
  locate_eq_ok (target_eq_ok.mp h).1

theorem textAt_of_target (h : d.target path = .ok (place, text)) : d.textAt place = text := by
  rw [textAt]
  rcases (target_eq_ok.mp h).2.2 with hfile | ⟨hnone, rfl⟩
  · rw [hfile]
  · rw [hnone]

theorem target_ne_folder (h : d.target path = .ok (place, text)) : d place ≠ some .folder := by
  rcases (target_eq_ok.mp h).2.2 with hfile | ⟨hnone, -⟩
  · rw [hfile]
    nofun
  · rw [hnone]
    nofun

/-- A file that is left alone can be written as before. -/
theorem target_of_keeps (hkeeps : KeepsFolders d d') (hplace : d' place = d place)
    (h : d.target path = .ok (place, text)) : d'.target path = .ok (place, text) := by
  obtain ⟨hlocate, hfolder, hitem⟩ := target_eq_ok.mp h
  rw [← hplace] at hitem
  exact target_eq_ok.mpr ⟨locate_of_keeps hkeeps hlocate, hfolder, hitem⟩

/-- A file holds what was written to it. -/
theorem target_put (h : d.target path = .ok (place, text)) (new : String) :
    (d.put place (.file new)).target path = .ok (place, new) := by
  obtain ⟨hlocate, hfolder, -⟩ := target_eq_ok.mp h
  have hkeeps := keepsFolders_put (target_ne_folder h) (.file new)
  exact target_eq_ok.mpr ⟨locate_of_keeps hkeeps hlocate, hfolder, .inl (put_same _ _ _)⟩

theorem read_eq_ok : d.read path = .ok text ↔
    ∃ place, d.target path = .ok (place, text) ∧ d place = some (.file text) := by
  constructor
  · intro h
    obtain ⟨item, hlook, hread⟩ := Outcome.bind_eq_ok.mp h
    obtain ⟨place, hlocate, hrest⟩ := Outcome.bind_eq_ok.mp hlook
    cases hitem : d place with
    | none =>
      simp only [hitem] at hrest
      cases hrest
    | some there =>
      simp only [hitem] at hrest
      split at hrest
      · cases hrest
      · rename_i hfolder
        cases hrest
        cases item with
        | folder => cases hread
        | file old =>
          cases hread
          have hfile : namesFolder path = false := by simpa using hfolder
          exact ⟨place, target_eq_ok.mpr ⟨hlocate, hfile, .inl hitem⟩, hitem⟩
  · rintro ⟨place, htarget, hfile⟩
    obtain ⟨hlocate, hfolder, -⟩ := target_eq_ok.mp htarget
    have hlook : d.look path = .ok (.file text) := by
      refine Outcome.bind_eq_ok.mpr ⟨place, hlocate, ?_⟩
      simp only [hfile, hfolder]
      rfl
    exact Outcome.bind_eq_ok.mpr ⟨.file text, hlook, rfl⟩

/-- A file that is left alone is read as before. -/
theorem read_of_keeps (hkeeps : KeepsFolders d d') (hplace : d' (placeOf path) = d (placeOf path))
    (h : d.read path = .ok text) : d'.read path = .ok text := by
  obtain ⟨place, htarget, hfile⟩ := read_eq_ok.mp h
  rw [← placeOf_of_target htarget] at hplace
  exact read_eq_ok.mpr ⟨place, target_of_keeps hkeeps hplace htarget, hplace.trans hfile⟩

theorem isPresent_of_read (h : d.read path = .ok text) : d.isPresent path = .ok true := by
  obtain ⟨item, hlook, -⟩ := Outcome.bind_eq_ok.mp h
  rw [isPresent, hlook]

theorem isPresent_of_target (h : d.target path = .ok (place, text)) : ∃ present, d.isPresent path = .ok present := by
  obtain ⟨hlocate, hfolder, hfile | ⟨hnone, -⟩⟩ := target_eq_ok.mp h
  · exact ⟨true, isPresent_of_read (read_eq_ok.mpr ⟨place, h, by rw [hfile, ← textAt_of_target h, textAt, hfile]⟩)⟩
  · have hlook : d.look path = .error .notFound := by
      refine Outcome.bind_eq_error.mpr (.inr ⟨place, hlocate, ?_⟩)
      simp only [hnone]
      rfl
    refine ⟨false, ?_⟩
    rw [isPresent, hlook]
    rfl

theorem write_eq_ok : d.write path text = .ok d' ↔
    ∃ place old, d.target path = .ok (place, old) ∧ d' = d.put place (.file text) := by
  constructor
  · intro h
    obtain ⟨⟨place, old⟩, htarget, hput⟩ := Outcome.bind_eq_ok.mp h
    exact ⟨place, old, htarget, (Except.ok.inj hput).symm⟩
  · rintro ⟨place, old, htarget, rfl⟩
    exact Outcome.bind_eq_ok.mpr ⟨(place, old), htarget, rfl⟩

theorem append_eq_ok : d.append path text = .ok d' ↔
    ∃ place old, d.target path = .ok (place, old) ∧ d' = d.put place (.file (old ++ text)) := by
  constructor
  · intro h
    obtain ⟨⟨place, old⟩, htarget, hput⟩ := Outcome.bind_eq_ok.mp h
    exact ⟨place, old, htarget, (Except.ok.inj hput).symm⟩
  · rintro ⟨place, old, htarget, rfl⟩
    exact Outcome.bind_eq_ok.mpr ⟨(place, old), htarget, rfl⟩

/-! ## Making folders -/

theorem makeFolders_cons (d : Disk) (start : Location) (name : String) (rest : List String) :
    d.makeFolders start (name :: rest) =
      match d (enter start name) with
      | none => (d.put (enter start name) .folder).makeFolders (enter start name) rest
      | some .folder => d.makeFolders (enter start name) rest
      | some (.file _) => .error (if rest = [] then .alreadyThere else .notFolder) :=
  rfl

theorem makeFolders_adds {start : Location} {names : List String} (h : d.makeFolders start names = .ok d') :
    AddsFolders d d' := by
  induction names generalizing d start with
  | nil =>
    cases h
    exact fun _ => .inl rfl
  | cons name rest ih =>
    rw [makeFolders_cons] at h
    split at h
    case h_1 hnone => exact (addsFolders_put hnone).trans (ih h)
    case h_2 => exact ih h
    case h_3 => cases h

/-- Folders that were made need not be made again. -/
theorem makeFolders_again {start : Location} {names : List String} (h : d.makeFolders start names = .ok d')
    (hkeeps : KeepsFolders d' d'') : d''.makeFolders start names = .ok d'' := by
  induction names generalizing d start with
  | nil => rfl
  | cons name rest ih =>
    -- Whether the first folder was there or is made, it is there in the end, and the others are made below it.
    have hfolder : d' (enter start name) = some .folder ∧ d''.makeFolders (enter start name) rest = .ok d'' := by
      rw [makeFolders_cons] at h
      split at h
      case h_1 => exact ⟨(makeFolders_adds h).keeps _ (put_same _ _ _), ih h⟩
      case h_2 hfolder => exact ⟨(makeFolders_adds h).keeps _ hfolder, ih h⟩
      case h_3 => cases h
    rw [makeFolders_cons, hkeeps _ hfolder.1]
    exact hfolder.2

end

end CallGuard.Disk
