import CallGuard.Proofs.Text.Reading
import CallGuard.Settings.Path

/-! # The text of a path

A path is read off a text that writes it: the name of its head, and behind it one piece of text for each step
(`written_ofText`). So a path without steps has the whole text for its head, a number of an item stands in brackets,
and the paths of a head and one part are the two names with a dot between them (`ofText_dot`). -/

namespace CallGuard

namespace Setting.Path
open Reading

/-- A character of a name. -/
def IsNameChar (c : Char) : Bool :=
  c.isAlphanum || c = ' ' || c = '_' || c = '-'

/-- A text that is read as a name. -/
structure IsName (cs : List Char) : Prop where
  ne_nil : cs ≠ []
  chars : ∀ c ∈ cs, IsNameChar c = true

/-- The texts of steps. Within the brackets of a number there may be space. -/
inductive StepsWritten : List Step → List Char → Prop
  | nil : StepsWritten [] []
  | part {cs steps text} (hname : IsName cs) (hrest : StepsWritten steps text) :
      StepsWritten (.part (String.ofList cs) :: steps) ('.' :: cs ++ text)
  | item {n inner steps text} (hrest : StepsWritten steps text) :
      StepsWritten (.item n :: steps) ('[' :: inner ++ ']' :: text)

/-! ## What a path was read off -/

theorem name_eq_some {text rest : List Char} {found : String} (h : name text = some (found, rest)) :
    IsName found.toList ∧ text = found.toList ++ rest := by
  obtain ⟨cs, mid, htake, h⟩ := bind_eq_some.mp h
  obtain ⟨hne, hchars, htext⟩ := takeSome_eq_some htake
  cases h
  rw [String.toList_ofList]
  exact ⟨⟨hne, hchars⟩, htext⟩

theorem shortens_skipSpace : Shortens skipSpace :=
  (Shortens.takeWhile _).bind fun _ => Shortens.pure _

theorem shortens_number : Shortens number :=
  shortens_skipSpace.bind fun _ => (Shortens.takeIf _).bind fun _ => (Shortens.takeSome _).bind fun _ =>
    (Shortens.lift _).bind fun _ => shortens_skipSpace.bind fun _ => Shortens.pure _

/-- A step that is read is written at the front of the text; where none is read, nothing is left. -/
theorem step_eq_some {text rest : List Char} {found : Option Step} (h : step text = some (found, rest)) :
    (found = none ∧ text = []) ∨
      ∃ s, found = some s ∧ ∀ steps after, StepsWritten steps after →
        ∃ written, text = written ++ rest ∧ StepsWritten (s :: steps) (written ++ after) := by
  obtain ⟨done, mid, hdone, h⟩ := bind_eq_some.mp h
  cases hdone
  cases text with
  | nil =>
    cases h
    exact .inl ⟨rfl, rfl⟩
  | cons c text =>
    obtain ⟨c', mid, hnext, h⟩ := bind_eq_some.mp (show (next >>= _) (c :: text) = _ from h)
    cases hnext
    split at h
    · obtain ⟨found', mid, hname, hdone⟩ := bind_eq_some.mp h
      obtain ⟨hfound, rfl⟩ := name_eq_some hname
      cases hdone
      refine .inr ⟨_, rfl, fun steps after hafter => ⟨'.' :: found'.toList, rfl, ?_⟩⟩
      have hwritten := StepsWritten.part hfound hafter
      rwa [String.ofList_toList] at hwritten
    · obtain ⟨n, behind, hnumber, hbehind⟩ := bind_eq_some.mp h
      obtain ⟨_, left, hclose, hdone⟩ := bind_eq_some.mp hbehind
      obtain ⟨inner, rfl⟩ := shortens_number hnumber
      obtain rfl := literal_eq_some.mp hclose
      cases hdone
      refine .inr ⟨_, rfl, fun steps after hafter => ⟨'[' :: inner ++ [']'], by simp, ?_⟩⟩
      rw [List.append_assoc]
      exact .item hafter
    · cases h

theorem collect_eq_some {fuel : Nat} {text rest : List Char} {steps : List Step}
    (h : collect step fuel text = some (steps, rest)) :
    ∃ written, text = written ++ rest ∧ StepsWritten steps written := by
  induction fuel generalizing text steps rest with
  | zero =>
    cases h
    exact ⟨[], rfl, .nil⟩
  | succ fuel ih =>
    obtain ⟨found, mid, hstep, hfound⟩ := bind_eq_some.mp h
    rcases step_eq_some hstep with ⟨rfl, rfl⟩ | ⟨s, rfl, hwritten⟩
    · cases hfound
      cases hstep
      exact ⟨[], rfl, .nil⟩
    · obtain ⟨behind, left, hcollect, hdone⟩ := bind_eq_some.mp hfound
      obtain ⟨after, rfl, hafter⟩ := ih hcollect
      cases hdone
      obtain ⟨written, rfl, hall⟩ := hwritten _ _ hafter
      exact ⟨written ++ after, (List.append_assoc ..).symm, hall⟩

/-- A path is written by the text that it is read off, or has no step and the whole text for its head. -/
theorem written_ofText (text : String) :
    ∃ written, text.toList = (ofText text).head.toList ++ written ∧ StepsWritten (ofText text).steps written := by
  rw [ofText]
  cases h : whole? path text.toList with
  | none => exact ⟨[], (List.append_nil _).symm, .nil⟩
  | some p =>
    obtain ⟨⟨p', rest⟩, hpath, hrest⟩ := Option.bind_eq_some_iff.mp h
    obtain ⟨head, mid, hname, hsteps⟩ := bind_eq_some.mp hpath
    obtain ⟨steps, left, hmany, hdone⟩ := bind_eq_some.mp hsteps
    obtain ⟨_, _, hget, hcollect⟩ := bind_eq_some.mp hmany
    cases hget
    obtain ⟨written, rfl, hwritten⟩ := collect_eq_some hcollect
    cases hdone
    cases rest with
    | nil =>
      cases hrest
      rw [List.append_nil] at hname
      exact ⟨written, (name_eq_some hname).2, hwritten⟩
    | cons c rest => cases hrest

/-! ## Paths of texts -/

section
variable {text head key : String}

/-- A path without steps is the name that the text is as it stands. -/
theorem head_of_steps_nil (h : (ofText text).steps = []) : (ofText text).head = text := by
  obtain ⟨written, htext, hwritten⟩ := written_ofText text
  rw [h] at hwritten
  cases hwritten
  rw [List.append_nil] at htext
  exact (String.toList_inj.mp htext).symm

theorem steps_eq_nil (hdot : '.' ∉ text.toList) (hbracket : '[' ∉ text.toList) : (ofText text).steps = [] := by
  obtain ⟨written, htext, hwritten⟩ := written_ofText text
  rw [htext] at hdot hbracket
  generalize (ofText text).steps = steps at hwritten ⊢
  cases hwritten with
  | nil => rfl
  | part hname hrest => exact absurd (List.mem_append_right _ List.mem_cons_self) hdot
  | item hrest => exact absurd (List.mem_append_right _ List.mem_cons_self) hbracket

theorem text_of_steps_part (h : (ofText text).steps = [.part key]) :
    text = (ofText text).head ++ "." ++ key := by
  obtain ⟨written, htext, hwritten⟩ := written_ofText text
  rw [h] at hwritten
  cases hwritten with
  | part hname hrest =>
    cases hrest
    apply String.toList_inj.mp
    simp [htext]

theorem bracket_mem_of_item {n : Int} (h : .item n ∈ (ofText text).steps) : '[' ∈ text.toList := by
  obtain ⟨written, htext, hwritten⟩ := written_ofText text
  rw [htext, List.mem_append]
  refine .inr ?_
  clear htext
  generalize (ofText text).steps = steps at h hwritten
  induction hwritten with
  | nil => cases h
  | part hname hrest ih =>
    exact List.mem_append_right _ (ih (by simpa using h))
  | item hrest ih => exact List.mem_cons_self

theorem name_run {cs rest : List Char} (hname : IsName cs) (hrest : ∀ c, rest.head? = some c → IsNameChar c = false) :
    name (cs ++ rest) = some (String.ofList cs, rest) := by
  have htake : takeSome IsNameChar (cs ++ rest) = some (cs, rest) := takeSome_run hname.ne_nil hname.chars hrest
  show (takeSome IsNameChar >>= _) _ = _
  rw [bind_apply htake]
  rfl

theorem step_part {cs : List Char} (hname : IsName cs) :
    step ('.' :: cs) = some (some (.part (String.ofList cs)), []) := by
  have hrun : name (cs ++ []) = some (String.ofList cs, []) := name_run hname nofun
  rw [List.append_nil] at hrun
  have hdone : isDone ('.' :: cs) = some (false, '.' :: cs) := rfl
  have hnext : next ('.' :: cs) = some ('.', cs) := rfl
  rw [step, bind_apply hdone]
  show (next >>= _) _ = _
  rw [bind_apply hnext]
  show (name >>= _) cs = _
  rw [bind_apply hrun]
  rfl

/-- Two names with a dot between them are the path of the second within the first. -/
theorem ofText_dot (hhead : IsName head.toList) (hkey : IsName key.toList) :
    ofText (head ++ "." ++ key) = ⟨head, [.part key]⟩ := by
  have hdot : ∀ c, ('.' :: key.toList).head? = some c → IsNameChar c = false := by
    intro c hc
    cases hc
    decide
  have hsteps : many step ('.' :: key.toList) = some ([.part key], []) := by
    rw [many, bind_apply (get_apply _), collect, bind_apply (step_part hkey), String.ofList_toList]
    rfl
  have hpath : path (head.toList ++ '.' :: key.toList) = some (⟨head, [.part key]⟩, []) := by
    rw [path, bind_apply (name_run hhead hdot), bind_apply hsteps, String.ofList_toList]
    rfl
  have htext : (head ++ "." ++ key).toList = head.toList ++ '.' :: key.toList := by
    simp
  rw [ofText, htext, whole?, hpath]
  rfl

end

end Setting.Path

end CallGuard
