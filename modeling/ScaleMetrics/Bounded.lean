/-!
# Bounded

Integers held in a word: a value between two limits, which travel in the type.  `ofInt?` is the
only way in, and it refuses what does not fit (`ofInt?_eq_some_iff`).

What does not fit can also wrap: `low32` and `low64` are what the low bits of a number say.
-/

namespace ScaleMetrics

/-- The number in the low 32 bits, read with a sign. -/
def low32 (n : Int) : Int :=
  n.bmod 0x100000000

/-- The number in the low 64 bits, read with a sign. -/
def low64 (n : Int) : Int :=
  n.bmod 0x10000000000000000

theorem low32_of_held {n : Int} (h : -0x80000000 ≤ n ∧ n < 0x80000000) : low32 n = n := by
  rw [low32]
  exact Int.bmod_eq_of_le (by omega) (by omega)

theorem low64_of_held {n : Int} (h : -0x8000000000000000 ≤ n ∧ n < 0x8000000000000000) :
    low64 n = n := by
  rw [low64]
  exact Int.bmod_eq_of_le (by omega) (by omega)

/-- An integer from `low` to `high`. -/
structure Bounded (low high : Int) where
  val : Int
  low_le : low ≤ val
  le_high : val ≤ high
  deriving Repr, DecidableEq

namespace Bounded

variable {low high : Int}

/-- The integer, if it lies between the limits. -/
def ofInt? (low high n : Int) : Option (Bounded low high) :=
  if h : low ≤ n ∧ n ≤ high then some ⟨n, h.1, h.2⟩ else none

theorem ext {a b : Bounded low high} (h : a.val = b.val) : a = b := by
  cases a
  cases b
  simpa using h

theorem ofInt?_eq_some_iff {n : Int} {a : Bounded low high} :
    ofInt? low high n = some a ↔ a.val = n := by
  rw [ofInt?]
  constructor
  · intro h
    split at h
    · cases h
      rfl
    · cases h
  · rintro rfl
    rw [dif_pos ⟨a.low_le, a.le_high⟩]

@[simp] theorem ofInt?_val (a : Bounded low high) : ofInt? low high a.val = some a :=
  ofInt?_eq_some_iff.2 rfl

theorem ofInt?_eq_none_iff {n : Int} : ofInt? low high n = none ↔ n < low ∨ high < n := by
  rw [ofInt?]
  split <;> simp <;> omega

end Bounded

/-- An integer of 64 bits with sign. -/
abbrev Signed64 := Bounded (-0x8000000000000000) 0x7fffffffffffffff

/-- An integer of 32 bits with sign. -/
abbrev Signed32 := Bounded (-0x80000000) 0x7fffffff

/-- Thousandths of a unit. -/
abbrev Milli := Signed64

namespace Milli

/-- The amount of that many thousandths, if it can be held. -/
def ofInt? (n : Int) : Option Milli :=
  Bounded.ofInt? _ _ n

/-- Nothing. -/
def zero : Milli :=
  ⟨0, by decide, by decide⟩

/-- The sum, if it can be held. -/
def add? (a b : Milli) : Option Milli :=
  ofInt? (a.val + b.val)

/-- The sum of a list, without bounds. -/
def exactSum (amounts : List Milli) : Int :=
  amounts.foldr (fun a sum => a.val + sum) 0

/-- The sum of a list, if it can be held at every step from the left. -/
def sum? (amounts : List Milli) : Option Milli :=
  amounts.foldlM add? zero

theorem tdiv_bounds {a : Int} (h : -0x8000000000000000 ≤ a ∧ a ≤ 0x7fffffffffffffff) (n : Nat) :
    -0x8000000000000000 ≤ a.tdiv n ∧ a.tdiv n ≤ 0x7fffffffffffffff := by
  have hle : (a.tdiv n).natAbs ≤ a.natAbs := by
    rw [Int.natAbs_tdiv]
    exact Nat.div_le_self ..
  rcases Int.le_total 0 a with ha | ha
  · have := Int.tdiv_nonneg ha (Int.natCast_nonneg n)
    omega
  · have hneg : a.tdiv n = -(-a).tdiv n := by rw [Int.neg_tdiv, Int.neg_neg]
    have := Int.tdiv_nonneg (Int.neg_nonneg_of_nonpos ha) (Int.natCast_nonneg n)
    omega

/-- An equal share of the amount, rounded toward zero; without a divisor, the whole amount. -/
def share (total : Milli) (count : Nat) : Milli :=
  if count = 0 then total
  else
    ⟨total.val.tdiv count, (tdiv_bounds ⟨total.low_le, total.le_high⟩ count).1,
      (tdiv_bounds ⟨total.low_le, total.le_high⟩ count).2⟩

end Milli

end ScaleMetrics
