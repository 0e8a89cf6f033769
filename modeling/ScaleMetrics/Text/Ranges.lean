/-!
# Text — Ranges

A set of characters as a list of closed ranges of code points, the form in which a standard
publishes a property.  The tables of this library are such lists; `Ranges.has` decides
membership.
-/

namespace ScaleMetrics.Text

/-- Closed ranges of code points. -/
abbrev Ranges := List (Nat × Nat)

/-- `c` lies in one of the ranges. -/
def Ranges.has (ranges : Ranges) (c : Char) : Bool :=
  ranges.any fun (low, high) => low ≤ c.toNat && c.toNat ≤ high

theorem Ranges.has_iff (ranges : Ranges) (c : Char) :
    ranges.has c = true ↔ ∃ r ∈ ranges, r.1 ≤ c.toNat ∧ c.toNat ≤ r.2 := by
  simp [Ranges.has]

end ScaleMetrics.Text
