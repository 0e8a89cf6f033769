import ScaleMetrics.Binary64
import ScaleMetrics.Bounded

/-!
# Report — Amount

Milli-units for people.  A whole number of units is written without a point, less than a unit as
milli-units (`250m`), anything else in units with one decimal place.  The place is that of the
double nearest to the number of units, so beyond `2 ^ 53` milli-units it is the double that is
shown.

The absolute value is one of 64 bits with sign.  That of the least amount wraps, so it is written
as if it were less than a unit.
-/

namespace ScaleMetrics.Report

/-- Tenths of a unit nearest to the double of `milli / 1000`; ties go to the even tenth. -/
def tenthsOfMilli (milli : Nat) : Nat :=
  match (do (← Binary64.ofNat? milli).div? (← Binary64.ofNat? 1000)) with
  | some units => roundHalfEven (10 * units.ratio.1) units.ratio.2
  | none => roundHalfEven milli 100

/-- The text of an amount of milli-units. -/
def amount (milli : Int) : String :=
  if milli % 1000 = 0 then toString (milli / 1000)
  else if 1000 ≤ low64 milli.natAbs then
    let tenths := tenthsOfMilli milli.natAbs
    (if milli < 0 then "-" else "") ++ toString (tenths / 10) ++ "." ++ toString (tenths % 10)
  else toString milli ++ "m"

end ScaleMetrics.Report
