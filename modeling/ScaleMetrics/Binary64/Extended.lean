import ScaleMetrics.Binary64.Decimal
import ScaleMetrics.Text.Case

/-!
# Binary64 — Extended

Floating-point numbers, finite or not, and their texts: numerals in digits, or the words for what
is infinite or no number.
-/

namespace ScaleMetrics.Binary64

/-- A floating-point number, finite or not. -/
inductive Extended where
  | finite (x : Binary64)
  | infinite (negative : Bool)
  | nan
  deriving Repr, DecidableEq

namespace Extended

/-- A decimal numeral `n * 10 ^ e` of which `count` digits are written.  Far outside the range of
finite numbers it is not computed. -/
def ofDecimal (negative : Bool) (n : Nat) (count : Nat) (e : Int) : Extended :=
  if n = 0 then .finite (.zero negative)
  else if count + e < -400 then .finite (.zero negative)
  else if 400 < e then .infinite negative
  else
    match Binary64.ofDecimal? negative n e with
    | some x => .finite x
    | none => .infinite negative

/-- The exponent at the end of a numeral. -/
def exponent? : List Char → Option Int
  | [] => some 0
  | c :: rest => if c = 'e' || c = 'E' then Digits.int? rest else none

/-- A decimal numeral without a sign: digits with at most one point, at least one digit, and an
optional exponent. -/
def decimal? (negative : Bool) (text : List Char) : Option Extended := do
  let whole := text.takeWhile Char.isDigit
  let behind := text.dropWhile Char.isDigit
  let (fraction, rest) := match behind with
    | '.' :: more => (more.takeWhile Char.isDigit, more.dropWhile Char.isDigit)
    | _ => ([], behind)
  let digits := whole ++ fraction
  guard (!digits.isEmpty)
  let e ← exponent? rest
  return ofDecimal negative (Digits.value digits) digits.length (e - fraction.length)

/-- A number without its sign, in digits or in words. -/
def unsigned? (negative : Bool) (text : List Char) : Option Extended :=
  let word := String.ofList (text.map Text.lower)
  if word = "inf" ∨ word = "infinity" then some (.infinite negative)
  else if word = "nan" then some .nan
  else decimal? negative text

/-- The number a text is. -/
def read? (text : String) : Option Extended :=
  match text.toList with
  | '-' :: rest => unsigned? true rest
  | '+' :: rest => unsigned? false rest
  | rest => unsigned? false rest

/-- The text of a number. -/
def text : Extended → String
  | .finite x => x.plain
  | .infinite true => "-inf"
  | .infinite false => "inf"
  | .nan => "NaN"

/-- The largest number of a 64-bit word. -/
def wordLimit : Nat := 0xffffffffffffffff

/-- The nearest number of a 64-bit word; a half goes up, and what is no number goes to zero. -/
def toWord : Extended → Nat
  | .finite x => min x.round.toNat wordLimit
  | .infinite negative => if negative then 0 else wordLimit
  | .nan => 0

end Extended

end ScaleMetrics.Binary64
