/-!
# Binary64

The finite numbers of the 64-bit binary floating-point format as exact data: a sign, a
significand below `2 ^ 53` and an exponent of two.  Every operation computes the exact result as
a ratio and rounds once, to nearest with ties to the even significand (`ofRatio?`); a result
beyond the largest finite number is `none`.
-/

namespace ScaleMetrics

/-- `± significand * 2 ^ exponent`. -/
structure Binary64 where
  negative : Bool
  significand : Nat
  exponent : Int
  deriving Repr, DecidableEq

/-- The integer nearest to `n / d`; a tie goes to the even neighbour. -/
def roundHalfEven (n d : Nat) : Nat :=
  let quotient := n / d
  let rest := n % d
  if 2 * rest < d then quotient
  else if d < 2 * rest then quotient + 1
  else quotient + quotient % 2

namespace Binary64

/-- The exponent of the smallest numbers. -/
def minExponent : Int := -1074

/-- The exponent of the largest numbers. -/
def maxExponent : Int := 971

/-- Zero, of either sign. -/
def zero (negative : Bool) : Binary64 :=
  ⟨negative, 0, minExponent⟩

/-- The ratio `n / d` in units of `2 ^ e`, again as a ratio. -/
def inUnits (n d : Nat) (e : Int) : Nat × Nat :=
  if 0 ≤ e then (n, d * Nat.pow 2 e.toNat) else (n * Nat.pow 2 (-e).toNat, d)

/-- The exponent at which `n / d` has a significand of 53 bits, or the smallest exponent. -/
def unitExponent (n d : Nat) : Int :=
  let e := max (Int.ofNat n.log2 - Int.ofNat d.log2 - 53) minExponent
  let (a, b) := inUnits n d e
  if Nat.pow 2 53 ≤ a / b then e + 1 else e

/-- The number nearest to `n / d`, for `d` positive. -/
def ofRatio? (negative : Bool) (n d : Nat) : Option Binary64 :=
  if n = 0 then some (zero negative)
  else
    let e := unitExponent n d
    let (a, b) := inUnits n d e
    let significand := roundHalfEven a b
    let (significand, e) := if significand = Nat.pow 2 53 then (Nat.pow 2 52, e + 1) else (significand, e)
    if maxExponent < e then none else some ⟨negative, significand, e⟩

/-- The number nearest to `n`. -/
def ofNat? (n : Nat) : Option Binary64 :=
  ofRatio? false n 1

/-- The magnitude as a ratio. -/
def ratio (x : Binary64) : Nat × Nat :=
  if 0 ≤ x.exponent then (x.significand * Nat.pow 2 x.exponent.toNat, 1)
  else (x.significand, Nat.pow 2 (-x.exponent).toNat)

/-- The rounded product. -/
def mul? (x y : Binary64) : Option Binary64 :=
  ofRatio? (x.negative != y.negative) (x.ratio.1 * y.ratio.1) (x.ratio.2 * y.ratio.2)

/-- The rounded quotient, for a divisor other than zero. -/
def div? (x y : Binary64) : Option Binary64 :=
  ofRatio? (x.negative != y.negative) (x.ratio.1 * y.ratio.2) (x.ratio.2 * y.ratio.1)

/-- The number with its sign turned. -/
def neg (x : Binary64) : Binary64 :=
  { x with negative := !x.negative }

/-- The nearest integer; a half goes away from zero. -/
def round (x : Binary64) : Int :=
  let (n, d) := x.ratio
  let magnitude : Int := (2 * n + d) / (2 * d)
  if x.negative then -magnitude else magnitude

end Binary64

end ScaleMetrics
