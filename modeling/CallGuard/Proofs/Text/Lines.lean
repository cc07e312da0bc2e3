/-! # Lines of a text

A text falls into pieces at its ends of line. The last piece is what stands behind the last end of line; it is empty
where every line is complete. -/

namespace CallGuard

/-- The pieces of a text between its ends of line. -/
def piecesOf (text : String) : List String :=
  (text.toList.splitOn '\n').map String.ofList

theorem piecesOf_of_not_mem {text : String} (h : '\n' ∉ text.toList) : piecesOf text = [text] := by
  rw [piecesOf, List.splitOn_eq_singleton h, List.map_singleton, String.ofList_toList]

theorem piecesOf_append (text rest : String) : piecesOf (text ++ "\n" ++ rest) = piecesOf text ++ piecesOf rest := by
  have hparts : (text ++ "\n" ++ rest).toList = text.toList ++ '\n' :: rest.toList := by
    rw [String.toList_append, String.toList_append, List.append_assoc]
    rfl
  rw [piecesOf, hparts, List.splitOn, List.splitOnP_append_cons _ _ rfl, List.map_append]
  rfl

/-- A line goes before the pieces of what follows it. -/
theorem piecesOf_line {line : String} (h : '\n' ∉ line.toList) (rest : String) :
    piecesOf (line ++ "\n" ++ rest) = line :: piecesOf rest := by
  rw [piecesOf_append, piecesOf_of_not_mem h]
  rfl

/-- A text has no line that is not complete. -/
def EndsLine (text : String) : Prop :=
  text = "" ∨ ∃ lines, text = lines ++ "\n"

theorem EndsLine.append {text rest : String} (h : EndsLine text) (hrest : EndsLine rest) : EndsLine (text ++ rest) := by
  obtain rfl | ⟨lines, rfl⟩ := hrest
  · rw [String.append_empty]
    exact h
  · exact .inr ⟨text ++ lines, String.append_assoc.symm⟩

/-- Behind complete lines a text falls into its own pieces. -/
theorem piecesOf_append_of_endsLine {text : String} (h : EndsLine text) (rest : String) :
    piecesOf (text ++ rest) = (piecesOf text).dropLast ++ piecesOf rest := by
  obtain rfl | ⟨lines, rfl⟩ := h
  · rw [String.empty_append]
    rfl
  · have hlines : piecesOf (lines ++ "\n") = piecesOf lines ++ [""] := by
      rw [← String.append_empty (s := lines ++ "\n"), piecesOf_append]
      rfl
    rw [piecesOf_append, hlines, List.dropLast_concat]

end CallGuard
