import ScaleMetrics.Binary64
import ScaleMetrics.Telemetry

/-!
# Telemetry — Counters

The counters and gauges that steps add up to: metrics gathered and failed by label, runs
observed, and the pods missing and ignored at the last time the gauges were set.
-/

namespace ScaleMetrics

/-- Counters by label, and gauges. -/
structure Counters where
  gathered : Dict Nat
  failed : Dict Nat
  runs : Nat
  missing : Nat
  ignored : Nat
  deriving Repr, DecidableEq

namespace Counters

/-- Counters of nothing. -/
def zero : Counters :=
  ⟨Dict.empty, Dict.empty, 0, 0, 0⟩

/-- The count of a label. -/
def countOf (counts : Dict Nat) (label : String) : Nat :=
  (counts.get? label).getD 0

/-- One more of a label. -/
def increment (counts : Dict Nat) (label : String) : Dict Nat :=
  counts.insert label (countOf counts label + 1)

/-- What a step changes. -/
def step (counters : Counters) : Step → Counters
  | .gathered label => { counters with gathered := increment counters.gathered label }
  | .failed label => { counters with failed := increment counters.failed label }
  | .gaps missing ignored => { counters with missing := missing, ignored := ignored }
  | .observed => { counters with runs := counters.runs + 1 }
  | .called _ | .logged _ => counters

/-- The counters after some steps. -/
def run (counters : Counters) (steps : List Step) : Counters :=
  steps.foldl step counters

/-- What a gauge shows of a count: it keeps 64 bits with sign, and a floating-point number is read
from it. -/
def shown (count : Nat) : Int :=
  let kept := Int.bmod count 0x10000000000000000
  match Binary64.ofNat? kept.natAbs with
  | some x => min (kept.sign * x.round) 0x7fffffffffffffff
  | none => kept

/-- The number of metrics of a label gathered. -/
def gatheredOf (counters : Counters) (label : String) : Nat :=
  countOf counters.gathered label

/-- The number of specifications of a label that failed. -/
def failedOf (counters : Counters) (label : String) : Nat :=
  countOf counters.failed label

theorem countOf_increment (counts : Dict Nat) (label other : String) :
    countOf (increment counts label) other =
      countOf counts other + if other = label then 1 else 0 := by
  rw [countOf, increment, Dict.get?_insert]
  split
  · next h => rw [h, Option.getD_some]
  · rfl

theorem run_append (counters : Counters) (xs ys : List Step) :
    counters.run (xs ++ ys) = (counters.run xs).run ys :=
  List.foldl_append ..

end Counters

end ScaleMetrics
