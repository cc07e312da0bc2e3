import CallGuard.Proofs.Json.RoundTrip

/-! # Values in one line

A value that is written in one line has no end of line in it, whatever its strings are. -/

namespace CallGuard.Json

theorem digitChar_ne_newline : ∀ d < 16, Nat.digitChar d ≠ '\n' := by
  decide

theorem newline_not_mem_escape (c : Char) : '\n' ∉ escape c := by
  rw [escape]
  split
  · decide
  split
  · decide
  split
  · decide
  split
  · decide
  split
  · decide
  split
  · decide
  split
  · decide
  split
  · have hhigh := digitChar_ne_newline (c.toNat / 16) (by omega)
    have hlow := digitChar_ne_newline (c.toNat % 16) (by omega)
    simp [hhigh.symm, hlow.symm]
  · rename_i hc _ _ _ _ _
    simpa using Ne.symm hc

theorem newline_not_mem_quote (text : Option String) : '\n' ∉ quote text := by
  cases text with
  | none => decide
  | some s => simp [quote, newline_not_mem_escape]

theorem newline_not_mem_leaf {v : Json} (hv : Printable v) : '\n' ∉ v.printLeaf := by
  cases hv with
  | null => decide
  | bool b => cases b <;> decide
  | number h => exact fun hmem => absurd (Number.isWordChar_of_mem_print h hmem) (by decide)
  | string text => exact newline_not_mem_quote text
  | array h => exact (by decide : '\n' ∉ ['[', ']'])
  | object h => exact (by decide : '\n' ∉ ['\x7b', '\x7d'])

mutual

theorem newline_not_mem_compact (v : Json) (hv : Printable v) : '\n' ∉ compact v := by
  cases v with
  | null => exact newline_not_mem_leaf hv
  | bool b => exact newline_not_mem_leaf hv
  | number x => exact newline_not_mem_leaf hv
  | string text => exact newline_not_mem_leaf hv
  | array items =>
    cases items with
    | nil => exact newline_not_mem_leaf hv
    | cons w rest =>
      obtain _ | _ | _ | _ | h := hv
      have hfirst := newline_not_mem_compact w (h w List.mem_cons_self)
      have hrest := newline_not_mem_compactItems rest fun v hv => h v (List.mem_cons_of_mem w hv)
      simp [compact, hfirst, hrest]
  | object fields =>
    cases fields with
    | nil => exact newline_not_mem_leaf hv
    | cons field rest =>
      obtain ⟨name, w⟩ := field
      obtain _ | _ | _ | _ | _ | h := hv
      have hfirst := newline_not_mem_compact w (h (name, w) List.mem_cons_self)
      have hrest := newline_not_mem_compactFields rest fun v hv => h v (List.mem_cons_of_mem (name, w) hv)
      simp [compact, newline_not_mem_quote, hfirst, hrest]

theorem newline_not_mem_compactItems (items : List Json) (h : ∀ v ∈ items, Printable v) :
    '\n' ∉ compactItems items := by
  cases items with
  | nil => simp [compactItems]
  | cons w rest =>
    have hfirst := newline_not_mem_compact w (h w List.mem_cons_self)
    have hrest := newline_not_mem_compactItems rest fun v hv => h v (List.mem_cons_of_mem w hv)
    simp [compactItems, hfirst, hrest]

theorem newline_not_mem_compactFields (fields : List (Option String × Json)) (h : ∀ field ∈ fields, Printable field.2) :
    '\n' ∉ compactFields fields := by
  cases fields with
  | nil => simp [compactFields]
  | cons field rest =>
    obtain ⟨name, w⟩ := field
    have hfirst := newline_not_mem_compact w (h (name, w) List.mem_cons_self)
    have hrest := newline_not_mem_compactFields rest fun v hv => h v (List.mem_cons_of_mem (name, w) hv)
    simp [compactFields, newline_not_mem_quote, hfirst, hrest]

end

end CallGuard.Json
