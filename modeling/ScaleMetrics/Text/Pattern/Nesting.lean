/-!
# Text — Pattern — Nesting

How deep the constructs of a pattern stand one inside the other.  Constructs side by side are a
`Row`; a row of one is no deeper than that one, a longer row adds a level (`Row.depth`).
-/

namespace ScaleMetrics.Text.Pattern

/-- Constructs side by side: how many they are, and the depth of the deepest. -/
structure Row where
  size : Nat
  deepest : Nat
  deriving Repr, DecidableEq

/-- No construct. -/
def Row.empty : Row :=
  ⟨0, 0⟩

/-- One more construct. -/
def Row.push (row : Row) (depth : Nat) : Row :=
  ⟨row.size + 1, max row.deepest depth⟩

/-- The last construct is now that deep. -/
def Row.deepen (row : Row) (depth : Nat) : Row :=
  { row with deepest := max row.deepest depth }

/-- The depth of all of them together. -/
def Row.depth (row : Row) : Nat :=
  if row.size ≤ 1 then row.deepest else row.deepest + 1

end ScaleMetrics.Text.Pattern
