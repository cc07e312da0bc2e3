import CallGuard.Proofs.Text.Runs
import CallGuard.Text.Blank

/-! # Texts without the white space around them

Every text consists of white space, a core that neither begins nor ends with any, and white space again. The core is
what trimming leaves (`trim_eq_iff`). -/

namespace CallGuard

/-- `core` is what stands between the white space at the two ends of a text. -/
structure Trimmed (cs core : List Char) : Prop where
  around : ∃ before after, cs = before ++ core ++ after ∧ (∀ c ∈ before, isBlank c = true) ∧
    ∀ c ∈ after, isBlank c = true
  head : ∀ c, core.head? = some c → isBlank c = false
  last : ∀ c, core.getLast? = some c → isBlank c = false

section
variable {cs core : List Char}

theorem head_trimStart (cs : List Char) {c : Char} (h : (trimStart cs).head? = some c) : isBlank c = false := by
  have hhead := List.head?_dropWhile_not isBlank cs
  unfold trimStart at h
  rwa [h] at hhead

theorem Trimmed.trim_eq (h : Trimmed cs core) : trim cs = core := by
  obtain ⟨⟨before, after, rfl, hbefore, hafter⟩, hhead, hlast⟩ := h
  unfold trim trimEnd trimStart
  cases core with
  | nil =>
    have hblank : ∀ c ∈ before ++ after, isBlank c = true := by
      intro c hc
      rcases List.mem_append.mp hc with hc | hc
      · exact hbefore c hc
      · exact hafter c hc
    have hnothing : (before ++ after ++ []).dropWhile isBlank = [] := dropWhile_run hblank nofun
    rw [List.append_nil] at hnothing
    rw [List.append_nil, hnothing]
    rfl
  | cons c rest =>
    have hfirst : isBlank c = false := hhead c rfl
    rw [List.append_assoc, dropWhile_run hbefore, List.reverse_append, dropWhile_run, List.reverse_reverse]
    · intro d hd
      exact hafter d (List.mem_reverse.mp hd)
    · intro d hd
      exact hlast d (by rwa [List.head?_reverse] at hd)
    · intro d hd
      cases hd
      exact hfirst

/-- Where no white space is, none is taken away but that around it. -/
theorem Trimmed.of_forall {before after : List Char} (hbefore : ∀ c ∈ before, isBlank c = true)
    (hafter : ∀ c ∈ after, isBlank c = true) (hcore : ∀ c ∈ core, isBlank c = false) :
    Trimmed (before ++ core ++ after) core where
  around := ⟨before, after, rfl, hbefore, hafter⟩
  head c hc := hcore c (List.mem_of_head? hc)
  last c hc := hcore c (List.mem_of_getLast? hc)

theorem trimmed_trim (cs : List Char) : Trimmed cs (trim cs) := by
  have hend : trimStart cs = trim cs ++ ((trimStart cs).reverse.takeWhile isBlank).reverse := by
    rw [trim, trimEnd, ← List.reverse_append, List.takeWhile_append_dropWhile, List.reverse_reverse]
  constructor
  · refine ⟨cs.takeWhile isBlank, ((trimStart cs).reverse.takeWhile isBlank).reverse, ?_, ?_, ?_⟩
    · rw [List.append_assoc, ← hend, trimStart, List.takeWhile_append_dropWhile]
    · intro c hc
      exact List.all_eq_true.mp List.all_takeWhile c hc
    · intro c hc
      exact List.all_eq_true.mp List.all_takeWhile c (List.mem_reverse.mp hc)
  · intro c hc
    refine head_trimStart cs ?_
    rw [hend, List.head?_append, hc]
    rfl
  · intro c hc
    refine head_trimStart (trimStart cs).reverse ?_
    rwa [trim, trimEnd, List.getLast?_reverse] at hc

theorem trim_eq_iff : trim cs = core ↔ Trimmed cs core := by
  constructor
  · rintro rfl
    exact trimmed_trim cs
  · exact Trimmed.trim_eq

end

end CallGuard
