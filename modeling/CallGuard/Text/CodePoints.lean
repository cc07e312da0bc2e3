/-! # Tables of code points

Sets of characters given by the ranges of their code points. -/

namespace CallGuard

/-- Ranges of code points, each by its first and its last one. -/
abbrev CodePoints := List (Nat × Nat)

/-- Whether a character lies in one of the ranges of a table. -/
def CodePoints.has (table : CodePoints) (c : Char) : Bool :=
  table.any fun (low, high) => low ≤ c.toNat && c.toNat ≤ high

end CallGuard
