import CallGuard.Proofs.Text.Runs
import CallGuard.Text.Reading

/-! # Steps of reading

What a step of reading takes off a text that begins with what it looks for, and what a text began with from which a step
took something. -/

namespace CallGuard

namespace Reading
variable {α β : Type} {p : Char → Bool} {run rest : List Char}

theorem bind_apply {step : Reading α} {next : α → Reading β} {text rest : List Char} {a : α}
    (h : step text = some (a, rest)) : (step >>= next) text = next a rest := by
  show (step text).bind (fun result => next result.1 result.2) = _
  rw [h]
  rfl

theorem get_apply (text : List Char) : (get : Reading (List Char)) text = some (text, text) := rfl

theorem set_apply (text rest : List Char) : (set rest : Reading Unit) text = some ((), rest) := rfl

/-- A run of no more characters than are taken at most is taken whole, if it ends there or none may follow. -/
theorem takeAtMost_run {most : Nat} (hne : run ≠ []) (hrun : ∀ c ∈ run, p c = true) (hlength : run.length ≤ most)
    (hrest : run.length < most → ∀ c, rest.head? = some c → p c = false) :
    takeAtMost most p (run ++ rest) = some (run, rest) := by
  have htake : ((run ++ rest).take most).takeWhile p = run := by
    rw [List.take_append, List.take_of_length_le hlength]
    refine takeWhile_run hrun fun c hc => ?_
    rw [List.head?_take] at hc
    split at hc
    · cases hc
    · exact hrest (by omega) c hc
  rw [takeAtMost]
  show (if (((run ++ rest).take most).takeWhile p).isEmpty then _ else _ : Reading _) _ = _
  rw [htake, if_neg (by simpa using hne)]
  show some (run, (run ++ rest).drop run.length) = _
  rw [List.drop_left]

theorem takeSome_run (hne : run ≠ []) (hrun : ∀ c ∈ run, p c = true)
    (hrest : ∀ c, rest.head? = some c → p c = false) : takeSome p (run ++ rest) = some (run, rest) := by
  have hwhile : takeWhile p (run ++ rest) = some (run, rest) := by
    show some ((run ++ rest).takeWhile p, (run ++ rest).dropWhile p) = _
    rw [takeWhile_run hrun hrest, dropWhile_run hrun hrest]
  rw [takeSome, bind_apply hwhile]
  show (if run.isEmpty then _ else _ : Reading _) rest = _
  rw [if_neg (by simpa using hne)]
  rfl

theorem literal_cons (c : Char) (rest : List Char) : literal c (c :: rest) = some ((), rest) := by
  rw [literal]
  show (if c ≠ c then _ else _ : Reading _) rest = _
  rw [if_neg (not_not_intro rfl)]
  rfl

/-! ## What a step took -/

section
variable {step : Reading α} {follow : α → Reading β} {text : List Char} {b : β} {c : Char}

/-- A sequence takes something exactly if its first part does and the second one does so on what that left. -/
theorem bind_eq_some : (step >>= follow) text = some (b, rest) ↔
    ∃ a mid, step text = some (a, mid) ∧ follow a mid = some (b, rest) := by
  show (step text).bind (fun result => follow result.1 result.2) = _ ↔ _
  simp only [Option.bind_eq_some_iff, Prod.exists]

theorem pure_eq_some {a a' : α} : (pure a : Reading α) text = some (a', rest) ↔ a = a' ∧ text = rest := by
  show some (a, text) = _ ↔ _
  rw [Option.some_inj, Prod.mk.injEq]

theorem failure_apply (text : List Char) : (failure : Reading α) text = none := rfl

theorem next_eq_some : next text = some (c, rest) ↔ text = c :: rest := by
  cases text with
  | nil => exact ⟨nofun, nofun⟩
  | cons d text =>
    show some (d, text) = _ ↔ _
    rw [Option.some_inj, Prod.mk.injEq, List.cons.injEq]

theorem literal_eq_some {u : Unit} : literal c text = some (u, rest) ↔ text = c :: rest := by
  rw [literal, bind_eq_some]
  constructor
  · rintro ⟨d, mid, hnext, hrest⟩
    by_cases hd : d = c
    · rw [if_neg (not_not_intro hd), pure_eq_some] at hrest
      rw [next_eq_some.mp hnext, hd, hrest.2]
    · rw [if_pos hd, failure_apply] at hrest
      cases hrest
  · exact fun h => ⟨c, rest, next_eq_some.mpr h, by rw [if_neg (not_not_intro rfl)]; rfl⟩

theorem takeSome_eq_some (h : takeSome p text = some (run, rest)) :
    run ≠ [] ∧ (∀ c ∈ run, p c = true) ∧ text = run ++ rest := by
  obtain ⟨run', mid, hwhile, h⟩ := bind_eq_some.mp h
  cases hwhile
  by_cases hempty : (text.takeWhile p).isEmpty
  · rw [if_pos hempty] at h
    cases h
  · rw [if_neg hempty] at h
    cases h
    exact ⟨by simpa using hempty, fun c hc => List.all_eq_true.mp List.all_takeWhile c hc,
      List.takeWhile_append_dropWhile.symm⟩

/-- A step only takes characters off the front. -/
def Shortens (step : Reading α) : Prop :=
  ∀ ⦃text a rest⦄, step text = some (a, rest) → rest <:+ text

namespace Shortens

theorem bind (h : Shortens step) (hnext : ∀ a, Shortens (follow a)) : Shortens (step >>= follow) := by
  intro text b rest hrun
  obtain ⟨a, mid, hstep, hrest⟩ := bind_eq_some.mp hrun
  exact (hnext a hrest).trans (h hstep)

theorem pure (a : α) : Shortens (Pure.pure a : Reading α) := by
  intro text a' rest h
  exact (pure_eq_some.mp h).2 ▸ List.suffix_refl text

theorem lift (result : Option α) : Shortens (liftM result : Reading α) := by
  intro text a rest h
  cases result with
  | none => cases h
  | some a' =>
    cases h
    exact List.suffix_refl _

theorem takeWhile (p : Char → Bool) : Shortens (Reading.takeWhile p) := by
  intro text run rest h
  cases h
  exact List.dropWhile_suffix p

theorem takeSome (p : Char → Bool) : Shortens (Reading.takeSome p) :=
  fun _ _ _ h => ⟨_, (takeSome_eq_some h).2.2.symm⟩

theorem takeIf (part : List Char) : Shortens (Reading.takeIf part) := by
  intro text taken rest h
  obtain ⟨text', mid, hget, h⟩ := bind_eq_some.mp h
  cases hget
  by_cases hpart : text.take part.length = part
  · rw [if_pos hpart] at h
    cases h
    exact List.drop_suffix _ _
  · rw [if_neg hpart] at h
    cases h
    exact List.suffix_refl _

end Shortens

end

end Reading

end CallGuard
