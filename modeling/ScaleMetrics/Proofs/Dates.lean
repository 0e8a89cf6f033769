import Mathlib
import ScaleMetrics.Calendar

/-!
# Proofs — Dates

A day number is a day of the calendar: its date stands in it (`valid_ofDayNumber`), and the days of
the years in which instants lie have dates of these years (`year_ofDayNumber`).

Both look at the day of the era alone, and at how it is made up (`exists_parts`).  A year of the
era, counted from March, has a 366th day only if the year that begins in its January is a leap year
(`isLeapYear_of_lastDay`).
-/

namespace ScaleMetrics.Date

/-- The day of a year counted from March in which a day of the era lies. -/
def dayOfYear (dayOfEra : Int) : Int :=
  dayOfEra - daysBeforeYear (yearOfEra dayOfEra)

/-- A day of an era lies whole centuries, whole cycles of four years, whole years and some days
behind the first.  Only the last year of a cycle has a 366th day, and that of the last cycle of a
century only in the last century. -/
theorem exists_parts {d : Int} (h : 0 ≤ d) (h' : d < 146097) :
    ∃ century cycle year, (0 ≤ century ∧ century ≤ 3) ∧ (0 ≤ cycle ∧ cycle ≤ 24) ∧
      (0 ≤ year ∧ year ≤ 3) ∧ yearOfEra d = 100 * century + 4 * cycle + year ∧
      d = 36524 * century + 1461 * cycle + 365 * year + dayOfYear d ∧
      (0 ≤ dayOfYear d ∧ dayOfYear d ≤ 365) ∧
      (dayOfYear d = 365 → year = 3 ∧ (cycle = 24 → century = 3)) := by
  have hday := dayOfYear_bounds h h'
  generalize hcentury : (if d / 36524 = 4 then 3 else d / 36524) = century
  generalize hcycle : (d - 36524 * century) / 1461 = cycle
  generalize hrest : (d - 36524 * century) % 1461 = rest
  generalize hyear : (if rest / 365 = 4 then 3 else rest / 365) = year
  have hera : yearOfEra d = 100 * century + 4 * cycle + year := by
    rw [yearOfEra]
    simp only [hcentury, hcycle, hrest, hyear]
  have hcenturies : 0 ≤ century ∧ century ≤ 3 := by split at hcentury <;> omega
  have hcycles : 0 ≤ cycle ∧ cycle ≤ 24 := by split at hcentury <;> omega
  have hyears : 0 ≤ year ∧ year ≤ 3 := by split at hyear <;> omega
  have hsplit : d = 36524 * century + 1461 * cycle + 365 * year + dayOfYear d := by
    rw [dayOfYear, hera, daysBeforeYear_parts hcycles hyears]
    omega
  refine ⟨century, cycle, year, hcenturies, hcycles, hyears, hera, hsplit, hday, fun hlast => ?_⟩
  split at hcentury <;> split at hyear <;> omega

/-- A leap year is one in every era. -/
theorem isLeapYear_add_eras (year era : Int) :
    isLeapYear (year + era * 400) = isLeapYear year := by
  have hfour : (year + era * 400) % 4 = year % 4 := by omega
  have hhundred : (year + era * 400) % 100 = year % 100 := by omega
  have hera : (year + era * 400) % 400 = year % 400 := by omega
  rw [isLeapYear, isLeapYear, hfour, hhundred, hera]

/-- Only a leap year adds a day behind the 365th. -/
theorem isLeapYear_of_lastDay {d : Int} (h : 0 ≤ d) (h' : d < 146097) (hlast : dayOfYear d = 365) :
    isLeapYear (yearOfEra d + 1) = true := by
  obtain ⟨century, cycle, year, hcentury, hcycle, -, hera, -, -, hyear⟩ := exists_parts h h'
  obtain ⟨rfl, hcycle'⟩ := hyear hlast
  simp only [isLeapYear, Bool.and_eq_true, Bool.or_eq_true, decide_eq_true_eq, hera]
  omega

/-- The months from March to December are as long as their first days are apart. -/
theorem daysInMonth_ofMarch (year : Int) {m : Int} (h : 0 ≤ m) (h' : m < 10) :
    daysInMonth year (m + 3) = daysBeforeMonth (m + 1) - daysBeforeMonth m := by
  interval_cases m <;> rfl

theorem valid_ofMarch {year j : Int} (h : 0 ≤ j) (h' : j ≤ 365)
    (hlast : j = 365 → isLeapYear (year + 1) = true) :
    (ofMarch year (monthOfYear j) (j - daysBeforeMonth (monthOfYear j) + 1)).Valid := by
  have hmonth := monthOfYear_bounds h h'
  have hlow : daysBeforeMonth (monthOfYear j) ≤ j := by
    unfold daysBeforeMonth monthOfYear
    omega
  have hhigh : j < daysBeforeMonth (monthOfYear j + 1) := by
    unfold daysBeforeMonth monthOfYear
    omega
  generalize monthOfYear j = m at *
  obtain hm | rfl | rfl : m < 10 ∨ m = 10 ∨ m = 11 := by omega
  · rw [ofMarch, if_pos hm]
    change 1 ≤ m + 3 ∧ m + 3 ≤ 12 ∧ 1 ≤ j - daysBeforeMonth m + 1 ∧
      j - daysBeforeMonth m + 1 ≤ daysInMonth year (m + 3)
    rw [daysInMonth_ofMarch year hmonth.1 hm]
    omega
  · -- January has 31 days
    change (1 : Int) ≤ 1 ∧ (1 : Int) ≤ 12 ∧ 1 ≤ j - 306 + 1 ∧ j - 306 + 1 ≤ 31
    change 306 ≤ j at hlow
    change j < 337 at hhigh
    omega
  · -- February is the last month, and its 29th day the last of 366
    change (1 : Int) ≤ 2 ∧ (2 : Int) ≤ 12 ∧ 1 ≤ j - 337 + 1 ∧
      j - 337 + 1 ≤ if isLeapYear (year + 1) then 29 else 28
    change 337 ≤ j at hlow
    split
    · omega
    · next hcommon =>
      have hearlier : j ≠ 365 := fun e => hcommon (hlast e)
      omega

/-- **A day number is a day of the calendar.** -/
theorem valid_ofDayNumber (n : Int) : (ofDayNumber n).Valid := by
  have hlow : 0 ≤ (n + epochShift) % eraDays := Int.emod_nonneg _ (by decide)
  have hhigh : (n + epochShift) % eraDays < 146097 := Int.emod_lt_of_pos _ (by decide)
  have hday := dayOfYear_bounds hlow hhigh
  refine valid_ofMarch hday.1 hday.2 fun hlast => ?_
  rw [add_right_comm, isLeapYear_add_eras]
  exact isLeapYear_of_lastDay hlow hhigh hlast

/-! ### The years of instants -/

theorem year_ofMarch {year j : Int} :
    (ofMarch year (monthOfYear j) (j - daysBeforeMonth (monthOfYear j) + 1)).year =
      if j < 306 then year else year + 1 := by
  unfold ofMarch monthOfYear
  split <;> split <;> first | rfl | omega

/-- Day 93808 of an era is the first of January of its 257th year. -/
theorem yearOfEra_of_ge {d : Int} (h : 93808 ≤ d) (h' : d < 146097) :
    257 ≤ yearOfEra d ∨ yearOfEra d = 256 ∧ 306 ≤ dayOfYear d := by
  obtain ⟨century, cycle, year, hcentury, hcycle, hyear, hera, hday, hbounds, -⟩ :=
    exists_parts (by omega) h'
  omega

/-- Day 52169 of an era is the last of December of its 142nd year. -/
theorem yearOfEra_of_le {d : Int} (h : 0 ≤ d) (h' : d ≤ 52169) :
    yearOfEra d ≤ 141 ∨ yearOfEra d = 142 ∧ dayOfYear d < 306 := by
  obtain ⟨century, cycle, year, hcentury, hcycle, hyear, hera, hday, hbounds, -⟩ :=
    exists_parts h (by omega)
  omega

/-- The days from the first day of the year -262143 to the last of the year 262142. -/
theorem year_ofDayNumber {n : Int} (h : -96465292 ≤ n) (h' : n ≤ 95026236) :
    -262143 ≤ (ofDayNumber n).year ∧ (ofDayNumber n).year ≤ 262142 := by
  have hlow : 0 ≤ (n + epochShift) % eraDays := Int.emod_nonneg _ (by decide)
  have hhigh : (n + epochShift) % eraDays < 146097 := Int.emod_lt_of_pos _ (by decide)
  have hsplit := Int.emod_add_mul_ediv (n + epochShift) eraDays
  have hyear := yearOfEra_bounds hlow hhigh
  rw [ofDayNumber, year_ofMarch]
  generalize (n + epochShift) % eraDays = d at *
  generalize (n + epochShift) / eraDays = era at *
  rw [epochShift, eraDays] at hsplit
  -- only in the first and the last era does the day matter
  obtain rfl | rfl | hera : era = -656 ∨ era = 655 ∨ -656 < era ∧ era < 655 := by omega
  · have hfirst := yearOfEra_of_ge (by omega) hhigh
    unfold dayOfYear at hfirst
    split_ifs <;> omega
  · have hlast := yearOfEra_of_le hlow (by omega)
    unfold dayOfYear at hlast
    split_ifs <;> omega
  · split_ifs <;> omega

end ScaleMetrics.Date
