import ScaleMetrics.Bounded
import ScaleMetrics.Text.Blank
import ScaleMetrics.Text.Digits
import ScaleMetrics.Text.Quoted

/-!
# Quantity

Resource quantities (`500m`, `1.5`, `2Gi`, `1e3`) as milli-units.

A quantity is read to a `Literal`, its sign, its digits as one integer, the number of places
behind the point and what its suffix multiplies by; the literal is then scaled to milli-units.
A fraction of a milli-unit rounds away from zero.  Magnitudes on the way are held in 127 bits,
the result in 64 bits with sign: `Literal.milli` refuses what does not fit.  Exponents and places
are held in 32 bits, and what does not fit there wraps.
-/

namespace ScaleMetrics.Quantity

/-- Why a text is no quantity, or none that can be held. -/
inductive Error where
  | empty
  | missingDigits
  | manyPoints
  | tooManyDigits
  | unknownSuffix (suffix : String)
  | outOfRange
  deriving Repr, DecidableEq

/-- The text of a reason. -/
def Error.message : Error → String
  | .empty => "empty quantity"
  | .missingDigits => "missing digits"
  | .manyPoints => "more than one decimal point"
  | .tooManyDigits => "too many digits"
  | .unknownSuffix suffix => "unknown suffix " ++ Text.quoted suffix
  | .outOfRange => "value out of range"

/-- What a suffix multiplies by. -/
inductive Multiplier where
  /-- A power of ten. -/
  | decimal (exponent : Int)
  /-- A power of two. -/
  | binary (exponent : Nat)
  deriving Repr, DecidableEq

/-- The largest exponent, of either sign, that may be written out. -/
def exponentLimit : Nat := 36

/-- The exponent written behind `e` or `E`, of 32 bits.  The absolute value of the least exponent
wraps, and so is within the limit. -/
def Multiplier.ofExponent? (text : List Char) : Option Multiplier :=
  match Digits.int? text with
  | some e =>
    if low32 e = e ∧ low32 e.natAbs ≤ exponentLimit then some (.decimal e) else none
  | none => none

/-- The multiplier a suffix stands for. -/
def Multiplier.ofSuffix? : List Char → Option Multiplier
  | [] => some (.decimal 0)
  | ['m'] => some (.decimal (-3))
  | ['k'] => some (.decimal 3)
  | ['M'] => some (.decimal 6)
  | ['G'] => some (.decimal 9)
  | ['T'] => some (.decimal 12)
  | ['P'] => some (.decimal 15)
  | ['E'] => some (.decimal 18)
  | ['K', 'i'] => some (.binary 10)
  | ['M', 'i'] => some (.binary 20)
  | ['G', 'i'] => some (.binary 30)
  | ['T', 'i'] => some (.binary 40)
  | ['P', 'i'] => some (.binary 50)
  | ['E', 'i'] => some (.binary 60)
  | 'e' :: exponent => Multiplier.ofExponent? exponent
  | 'E' :: exponent => Multiplier.ofExponent? exponent
  | _ => none

/-- A quantity taken apart: `digits / 10 ^ places`, times the multiplier, with the sign. -/
structure Literal where
  negative : Bool
  digits : Nat
  places : Nat
  multiplier : Multiplier
  deriving Repr, DecidableEq

/-- Magnitudes on the way to the result stay below this bound. -/
def magnitudeBound : Nat := Nat.pow 2 127

/-- A sign, if there is one, and the rest. -/
def splitSign : List Char → Bool × List Char
  | '-' :: rest => (true, rest)
  | '+' :: rest => (false, rest)
  | rest => (false, rest)

/-- A character of the number in front of the suffix. -/
def isNumeral (c : Char) : Bool :=
  c.isDigit || c == '.'

/-- Reads a quantity that has no blanks around it. -/
def Literal.ofChars (text : List Char) : Except Error Literal := do
  if text.isEmpty then throw .empty
  let (negative, unsigned) := splitSign text
  let number := unsigned.takeWhile isNumeral
  let suffix := unsigned.dropWhile isNumeral
  let whole := number.takeWhile (· != '.')
  let fraction := (number.dropWhile (· != '.')).drop 1
  if whole.isEmpty && fraction.isEmpty then throw .missingDigits
  if fraction.contains '.' then throw .manyPoints
  let digits := Digits.value (whole ++ fraction)
  if magnitudeBound ≤ digits then throw .tooManyDigits
  match Multiplier.ofSuffix? suffix with
  | some multiplier => return ⟨negative, digits, fraction.length, multiplier⟩
  | none => throw (.unknownSuffix (String.ofList suffix))

/-- Reads a quantity; blanks around it do not matter. -/
def Literal.ofString (text : String) : Except Error Literal :=
  Literal.ofChars (Text.trim text.toList)

/-- `n` when it can be held on the way. -/
def hold (n : Nat) : Option Nat :=
  if n < magnitudeBound then some n else none

/-- A power of ten, when it can be held on the way; from the 127th on none can. -/
def power? (exponent : Nat) : Option Nat :=
  if exponent < 127 then hold (Nat.pow 10 exponent) else none

/-- The least integer that is not below `n / d`. -/
def ceilDiv (n d : Nat) : Nat :=
  n / d + if n % d = 0 then 0 else 1

/-- The least integer that is not below a quotient.  A divisor that cannot be held leaves one unit
at most. -/
def ceilDivBy (n : Nat) : Option Nat → Nat
  | some d => ceilDiv n d
  | none => if n = 0 then 0 else 1

/-- The magnitude in milli-units, rounded up, unless a step on the way cannot be held. -/
def Literal.magnitude (q : Literal) : Option Nat :=
  match q.multiplier with
  | .decimal exponent =>
    let shift := low32 (exponent + 3 - q.places)
    if 0 ≤ shift then do
      let power ← power? shift.toNat
      hold (q.digits * power)
    else
      some (ceilDivBy q.digits (power? (-shift).toNat))
  | .binary exponent => do
    let units ← hold (q.digits * Nat.pow 2 exponent)
    let milli ← hold (units * 1000)
    return ceilDivBy milli (power? (q.places % 0x100000000))

/-- The literal in milli-units. -/
def Literal.milli (q : Literal) : Except Error Milli :=
  match q.magnitude with
  | none => .error .outOfRange
  | some magnitude =>
    match Milli.ofInt? (if q.negative then -magnitude else magnitude) with
    | some amount => .ok amount
    | none => .error .outOfRange

/-- A quantity in milli-units. -/
def milli (text : String) : Except Error Milli := do
  let literal ← Literal.ofString text
  literal.milli

end ScaleMetrics.Quantity
