import ScaleMetrics.Instant

/-!
# Instant — Printer

The text of an instant, in universal time: `2024-05-01T10:00:00.500Z`.  A year has at least four
digits, and a sign when it is negative or has more.  The fraction of a second has 0, 3, 6 or 9
digits, the fewest that lose nothing (`text`); or it is left out (`wholeText`).
-/

namespace ScaleMetrics.Instant

/-- The digits of `n`, with zeros in front up to a width. -/
def padded (width n : Nat) : String :=
  let digits := Nat.toDigits 10 n
  String.ofList (List.replicate (width - digits.length) '0' ++ digits)

/-- The text of a year. -/
def yearText (year : Int) : String :=
  if year < 0 then "-" ++ padded 4 year.natAbs
  else if 9999 < year then "+" ++ padded 4 year.natAbs
  else padded 4 year.natAbs

/-- The date. -/
def date (a : Instant) : Date :=
  Date.ofDayNumber (a.second / secondsPerDay)

/-- The text up to the whole second; a leap second is second 60. -/
def secondsText (a : Instant) : String :=
  let date := a.date
  let time := a.timeOfDay.toNat
  let second := time % 60 + a.nano / nanosPerSecond
  yearText date.year ++ "-" ++ padded 2 date.month.toNat ++ "-" ++ padded 2 date.day.toNat ++
    "T" ++ padded 2 (time / 3600) ++ ":" ++ padded 2 (time / 60 % 60) ++ ":" ++ padded 2 second

/-- The text of a fraction of a second. -/
def fractionText (nano : Nat) : String :=
  if nano = 0 then ""
  else if nano % 1000000 = 0 then "." ++ padded 3 (nano / 1000000)
  else if nano % 1000 = 0 then "." ++ padded 6 (nano / 1000)
  else "." ++ padded 9 nano

/-- The text of an instant. -/
def text (a : Instant) : String :=
  a.secondsText ++ fractionText (a.nano % nanosPerSecond) ++ "Z"

/-- The text of an instant without its fraction of a second. -/
def wholeText (a : Instant) : String :=
  a.secondsText ++ "Z"

end ScaleMetrics.Instant
