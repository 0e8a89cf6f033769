/-!
# Calendar

Dates of the proleptic Gregorian calendar and their day numbers, counted from 1970-01-01.  Years
are counted from March inside, so that the day of a leap year is the last one; 400 years are an
era of 146097 days.  `dayNumber_ofDayNumber` says that no day number is lost on the way to a date
and back.
-/

namespace ScaleMetrics

/-- A date. -/
structure Date where
  year : Int
  month : Int
  day : Int
  deriving Repr, DecidableEq

namespace Date

/-- The days of an era. -/
def eraDays : Int := 146097

/-- The day number of 1 March of the year 0. -/
def epochShift : Int := 719468

/-- February has 29 days. -/
def isLeapYear (year : Int) : Bool :=
  year % 4 = 0 && (year % 100 ≠ 0 || year % 400 = 0)

/-- The number of days of a month. -/
def daysInMonth (year month : Int) : Int :=
  if month = 2 then if isLeapYear year then 29 else 28
  else if month = 4 ∨ month = 6 ∨ month = 9 ∨ month = 11 then 30
  else 31

/-- The date stands in the calendar. -/
def Valid (date : Date) : Prop :=
  1 ≤ date.month ∧ date.month ≤ 12 ∧ 1 ≤ date.day ∧
    date.day ≤ daysInMonth date.year date.month

instance (date : Date) : Decidable date.Valid :=
  inferInstanceAs (Decidable (_ ∧ _))

/-- The days of an era in front of one of its years. -/
def daysBeforeYear (yearOfEra : Int) : Int :=
  365 * yearOfEra + yearOfEra / 4 - yearOfEra / 100

/-- The days in front of a month, counted from March. -/
def daysBeforeMonth (month : Int) : Int :=
  (153 * month + 2) / 5

/-- The day number of a date. -/
def dayNumber (date : Date) : Int :=
  let year := if date.month ≤ 2 then date.year - 1 else date.year
  let month := (date.month + 9) % 12
  year / 400 * eraDays + daysBeforeYear (year % 400) + daysBeforeMonth month + date.day - 1 -
    epochShift

/-- The year of an era in which a day of the era lies: whole centuries, whole leap cycles, whole
years.  The last day of an era belongs to its fourth century, and the last day of a leap cycle to
its fourth year. -/
def yearOfEra (day : Int) : Int :=
  let century := if day / 36524 = 4 then 3 else day / 36524
  let dayOfCentury := day - 36524 * century
  let cycle := dayOfCentury / 1461
  let dayOfCycle := dayOfCentury % 1461
  let year := if dayOfCycle / 365 = 4 then 3 else dayOfCycle / 365
  100 * century + 4 * cycle + year

theorem daysBeforeYear_parts {century cycle year : Int} (hcycle : 0 ≤ cycle ∧ cycle ≤ 24)
    (hyear : 0 ≤ year ∧ year ≤ 3) :
    daysBeforeYear (100 * century + 4 * cycle + year) =
      36524 * century + 1461 * cycle + 365 * year := by
  have hfour : (100 * century + 4 * cycle + year) / 4 = 25 * century + cycle := by omega
  have hhundred : (100 * century + 4 * cycle + year) / 100 = century := by omega
  rw [daysBeforeYear, hfour, hhundred]
  omega

theorem yearOfEra_bounds {d : Int} (h : 0 ≤ d) (h' : d < 146097) :
    0 ≤ yearOfEra d ∧ yearOfEra d < 400 := by
  unfold yearOfEra
  simp only
  split <;> split <;> omega

theorem dayOfYear_bounds {d : Int} (h : 0 ≤ d) (h' : d < 146097) :
    0 ≤ d - daysBeforeYear (yearOfEra d) ∧ d - daysBeforeYear (yearOfEra d) ≤ 365 := by
  unfold yearOfEra
  simp only
  rw [daysBeforeYear_parts (by split <;> omega) (by split <;> split <;> omega)]
  split <;> split <;> omega

/-- The date of a year and month counted from March. -/
def ofMarch (year month day : Int) : Date :=
  if month < 10 then ⟨year, month + 3, day⟩ else ⟨year + 1, month - 9, day⟩

theorem dayNumber_ofMarch {year month : Int} (day : Int) (h : 0 ≤ month ∧ month ≤ 11) :
    (ofMarch year month day).dayNumber =
      year / 400 * eraDays + daysBeforeYear (year % 400) + daysBeforeMonth month + day - 1 -
        epochShift := by
  unfold ofMarch dayNumber
  split
  · simp only
    rw [if_neg (by omega), show (month + 3 + 9) % 12 = month by omega]
  · simp only
    rw [if_pos (by omega), show (month - 9 + 9) % 12 = month by omega,
      show year + 1 - 1 = year by omega]

/-- The month, counted from March, in which a day of the year lies. -/
def monthOfYear (day : Int) : Int :=
  (5 * day + 2) / 153

theorem monthOfYear_bounds {j : Int} (h : 0 ≤ j) (h' : j ≤ 365) :
    0 ≤ monthOfYear j ∧ monthOfYear j ≤ 11 := by
  unfold monthOfYear
  omega

/-- The date of a day number. -/
def ofDayNumber (n : Int) : Date :=
  let era := (n + epochShift) / eraDays
  let dayOfEra := (n + epochShift) % eraDays
  let year := yearOfEra dayOfEra
  let dayOfYear := dayOfEra - daysBeforeYear year
  let month := monthOfYear dayOfYear
  ofMarch (year + era * 400) month (dayOfYear - daysBeforeMonth month + 1)

theorem dayNumber_ofDayNumber (n : Int) : (ofDayNumber n).dayNumber = n := by
  have hlow : 0 ≤ (n + epochShift) % eraDays := Int.emod_nonneg _ (by decide)
  have hhigh : (n + epochShift) % eraDays < 146097 := Int.emod_lt_of_pos _ (by decide)
  have hyear := yearOfEra_bounds hlow hhigh
  have hday := dayOfYear_bounds hlow hhigh
  have hsplit := Int.emod_add_mul_ediv (n + epochShift) eraDays
  rw [ofDayNumber, dayNumber_ofMarch _ (monthOfYear_bounds hday.1 hday.2),
    Int.add_mul_ediv_right _ _ (by decide), Int.add_mul_emod_self_right,
    Int.ediv_eq_zero_of_lt hyear.1 hyear.2, Int.emod_eq_of_lt hyear.1 hyear.2, Int.zero_add,
    Int.mul_comm]
  omega

end Date

end ScaleMetrics
