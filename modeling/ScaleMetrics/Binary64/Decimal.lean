import ScaleMetrics.Binary64
import ScaleMetrics.Text.Digits

/-!
# Binary64 — Decimal

Decimal text of a number: the fewest digits that read back to it (`shortest`), laid out
positionally (`plain`) or, far from one, with an exponent (`compact`).  `ofDecimal?` reads
decimal text to the nearest number.
-/

namespace ScaleMetrics.Binary64

/-- Decimal digits, without leading or trailing zeros, and the number of them that stand in
front of the point. -/
structure Decimal where
  digits : List Char
  point : Int
  deriving Repr, DecidableEq

/-- The digits of `n * 10 ^ e`, for `n` positive. -/
def Decimal.ofNat (n : Nat) (e : Int) : Decimal :=
  let digits := Nat.toDigits 10 n
  ⟨(digits.reverse.dropWhile (· == '0')).reverse, digits.length + e⟩

/-- The power of ten just below `n / d`, as an exponent. -/
def decimalExponent (n d : Nat) : Int :=
  if d ≤ n then (Nat.toDigits 10 (n / d)).length - 1
  else -((Nat.toDigits 10 ((d + n - 1) / n - 1)).length : Int)

/-- The ratio `n / d` in units of `10 ^ e`, again as a ratio. -/
def inTens (n d : Nat) (e : Int) : Nat × Nat :=
  if 0 ≤ e then (n, d * Nat.pow 10 e.toNat) else (n * Nat.pow 10 (-e).toNat, d)

/-- The quarter units of the significand between which every real rounds to the number: the
bounds, and whether they belong to the interval. -/
def interval (x : Binary64) : Nat × Nat × Bool :=
  let below := if x.significand = Nat.pow 2 52 ∧ minExponent < x.exponent then 1 else 2
  (4 * x.significand - below, 4 * x.significand + 2, x.significand % 2 = 0)

/-- `n * 10 ^ e` rounds to the magnitude of `x`. -/
def roundsTo (x : Binary64) (n : Nat) (e : Int) : Bool :=
  let (low, high, closed) := x.interval
  let (a, b) := inTens n 1 (-e)
  let (p, q) := inUnits a b (x.exponent - 2)
  if closed then low * q ≤ p && p ≤ high * q else low * q < p && p < high * q

/-- The neighbours of the magnitude on the grid of `10 ^ e`, the nearer one first. -/
def neighbours (x : Binary64) (e : Int) : Nat × Nat :=
  let (a, b) := inTens x.ratio.1 x.ratio.2 e
  let nearest := roundHalfEven a b
  let floor := a / b
  (nearest, if nearest = floor then floor + 1 else floor)

/-- A neighbour on the first of the grids that has one which rounds to `x`, from `count` digits
on; on the last grid, the nearest. -/
def shortestFrom (x : Binary64) (top : Int) (left count : Nat) : Decimal :=
  let e := top + 1 - count
  let (near, far) := x.neighbours e
  match left with
  | 0 => Decimal.ofNat near e
  | left + 1 =>
    if x.roundsTo near e then Decimal.ofNat near e
    else if x.roundsTo far e then Decimal.ofNat far e
    else shortestFrom x top left (count + 1)

/-- The fewest decimal digits that read back to the magnitude, for a number other than zero. -/
def shortest (x : Binary64) : Decimal :=
  let (n, d) := x.ratio
  shortestFrom x (decimalExponent n d) 16 1

/-- Zeros. -/
def zeros (n : Int) : List Char :=
  List.replicate n.toNat '0'

/-- Digits with the point at its place; `tail` follows the digits of an integer. -/
def Decimal.positional (decimal : Decimal) (tail : List Char) : List Char :=
  let count : Int := decimal.digits.length
  if decimal.point ≤ 0 then ['0', '.'] ++ zeros (-decimal.point) ++ decimal.digits
  else if count ≤ decimal.point then decimal.digits ++ zeros (decimal.point - count) ++ tail
  else
    decimal.digits.take decimal.point.toNat ++ ['.'] ++ decimal.digits.drop decimal.point.toNat

/-- One digit in front of the point, and an exponent with its sign. -/
def Decimal.scientific (decimal : Decimal) : List Char :=
  let rest := decimal.digits.drop 1
  let exponent := decimal.point - 1
  decimal.digits.take 1 ++ (if rest.isEmpty then [] else '.' :: rest) ++
    ['e', if exponent < 0 then '-' else '+'] ++ Nat.toDigits 10 exponent.natAbs

/-- The sign of a negative number. -/
def sign (x : Binary64) : List Char :=
  if x.negative then ['-'] else []

/-- Positional text without an exponent; integers have no point. -/
def plain (x : Binary64) : String :=
  String.ofList <| x.sign ++ if x.significand = 0 then ['0'] else x.shortest.positional []

/-- Text that always shows a point or an exponent: positional from `0.00001` up to sixteen
digits in front of the point. -/
def compact (x : Binary64) : String :=
  String.ofList <| x.sign ++
    if x.significand = 0 then ['0', '.', '0']
    else
      let decimal := x.shortest
      if -5 < decimal.point ∧ decimal.point ≤ 16 then decimal.positional ['.', '0']
      else decimal.scientific

/-- The number nearest to `n * 10 ^ e`. -/
def ofDecimal? (negative : Bool) (n : Nat) (e : Int) : Option Binary64 :=
  let (a, b) := inTens n 1 (-e)
  ofRatio? negative a b

end ScaleMetrics.Binary64
