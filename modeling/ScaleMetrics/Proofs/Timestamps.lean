import ScaleMetrics.Instant.Printer
import ScaleMetrics.Instant.Reader
import ScaleMetrics.Proofs.Dates

/-!
# Proofs — Timestamps

The text of an instant is read back as the instant, to the nanosecond (`read?_text`), whatever its
year and also in a leap second.  Its text to the whole second is read back as the instant without
its fraction (`read?_wholeText`).

A reader takes a part of the text off the front: `Takes x text a rest` says that it reads `a` and
leaves `rest`.  There is one such law for each part that is written, and a sequence of readers takes
the parts one after the other (`Takes.bind`).
-/

namespace ScaleMetrics.Instant

/-! ### Padded numbers -/

/-- The digits of a number, with zeros in front up to a width. -/
def paddedDigits (width n : Nat) : List Char :=
  List.replicate (width - (Nat.toDigits 10 n).length) '0' ++ Nat.toDigits 10 n

theorem toList_padded (width n : Nat) : (padded width n).toList = paddedDigits width n :=
  String.toList_ofList

theorem isDigit_of_mem_paddedDigits {width n : Nat} {c : Char} (h : c ∈ paddedDigits width n) :
    c.isDigit = true := by
  rcases List.mem_append.1 h with h | h
  · rw [(List.mem_replicate.1 h).2]
    rfl
  · exact Nat.isDigit_of_mem_toDigits (by decide) (by decide) h

theorem paddedDigits_ne_nil (width n : Nat) : paddedDigits width n ≠ [] :=
  List.append_ne_nil_of_right_ne_nil _ Nat.toDigits_ne_nil

theorem length_paddedDigits {width n : Nat} (hwidth : 0 < width) (h : n < 10 ^ width) :
    (paddedDigits width n).length = width := by
  have hlength := (Nat.length_toDigits_le_iff (by decide) hwidth).2 h
  rw [paddedDigits, List.length_append, List.length_replicate]
  omega

theorem value_replicate_zero (k : Nat) : Digits.value (List.replicate k '0') = 0 := by
  induction k with
  | zero => rfl
  | succ k ih =>
      rw [List.replicate_succ', Digits.value_append, ih]
      rfl

theorem value_toDigits (n : Nat) : Digits.value (Nat.toDigits 10 n) = n := by
  have h := Nat.ofDigitChars_ten_toDigits (n := n)
  rw [Nat.ofDigitChars_eq_foldl] at h
  exact h

/-- A padded number is the number. -/
theorem value_paddedDigits (width n : Nat) : Digits.value (paddedDigits width n) = n := by
  rw [paddedDigits, Digits.value_append, value_replicate_zero, value_toDigits, Nat.zero_mul,
    Nat.zero_add]

/-! ### Readers -/

/-- The reader reads `a` off the front of the text and leaves the rest. -/
def Takes {α : Type} (x : Scan α) (text : List Char) (a : α) (rest : List Char) : Prop :=
  x.run text = some (a, rest)

theorem takes_pure {α : Type} (a : α) (text : List Char) : Takes (pure a) text a text :=
  rfl

theorem takes_get (text : List Char) : Takes (get : Scan (List Char)) text text text :=
  rfl

theorem takes_set (text rest : List Char) : Takes (set rest : Scan PUnit) text ⟨⟩ rest :=
  rfl

theorem Takes.bind {α β : Type} {x : Scan α} {f : α → Scan β} {text mid rest : List Char} {a : α}
    {b : β} (h : Takes x text a mid) (h' : Takes (f a) mid b rest) :
    Takes (x >>= f) text b rest := by
  unfold Takes at *
  rw [StateT.run_bind, h]
  exact h'

/-! ### Numbers -/

/-- The text does not go on with a digit. -/
def Stops (rest : List Char) : Prop :=
  ∀ c ∈ rest.head?, c.isDigit = false

/-- The text does not start with a blank. -/
def Starts (text : List Char) : Prop :=
  ∀ c ∈ text.head?, Text.isBlank c = false

theorem takeWhile_digits {digits rest : List Char} (h : ∀ c ∈ digits, c.isDigit = true)
    (hrest : Stops rest) : (digits ++ rest).takeWhile Char.isDigit = digits := by
  rw [List.takeWhile_append_of_pos h]
  cases rest with
  | nil => simp
  | cons c rest =>
    rw [List.takeWhile_cons_of_neg, List.append_nil]
    simp [hrest c rfl]

theorem blanks_takes {text : List Char} (h : Starts text) : Takes Scan.blanks text () text := by
  cases text with
  | nil => rfl
  | cons c rest =>
    have htrim : Text.trimStart (c :: rest) = c :: rest := by
      rw [Text.trimStart, List.dropWhile_cons_of_neg]
      simp [h c rfl]
    show some ((), Text.trimStart (c :: rest)) = some ((), c :: rest)
    rw [htrim]

theorem digits_run (width : Nat) (text : List Char) :
    (Scan.digits width).run text =
      if ((text.takeWhile Char.isDigit).take width).isEmpty then none
      else some ((text.takeWhile Char.isDigit).take width,
        text.drop ((text.takeWhile Char.isDigit).take width).length) := by
  rw [Scan.digits, StateT.run_bind, StateT.run_get]
  dsimp only [bind, Option.bind, pure]
  split <;> rfl

theorem digits_takes {width : Nat} {digits rest : List Char}
    (h : ∀ c ∈ digits, c.isDigit = true) (hne : digits ≠ []) (hwidth : digits.length ≤ width)
    (hrest : Stops rest) : Takes (Scan.digits width) (digits ++ rest) digits rest := by
  rw [Takes, digits_run, takeWhile_digits h hrest, List.take_of_length_le hwidth,
    if_neg (by simpa using hne), List.drop_left]

theorem allDigits_takes {digits rest : List Char} (h : ∀ c ∈ digits, c.isDigit = true)
    (hne : digits ≠ []) (hrest : Stops rest) :
    Takes Scan.allDigits (digits ++ rest) digits rest :=
  digits_takes h hne (by rw [List.length_append]; omega) hrest

/-- A padded number starts with a digit. -/
theorem exists_digit (width n : Nat) :
    ∃ c digits, paddedDigits width n = c :: digits ∧ c.isDigit = true := by
  obtain ⟨c, digits, h⟩ := List.exists_cons_of_ne_nil (paddedDigits_ne_nil width n)
  exact ⟨c, digits, h, isDigit_of_mem_paddedDigits (h ▸ List.mem_cons_self)⟩

theorem starts_paddedDigits (width n : Nat) (rest : List Char) :
    Starts (paddedDigits width n ++ rest) := by
  obtain ⟨c, digits, h, hc⟩ := exists_digit width n
  rw [h]
  rintro d ⟨rfl⟩
  exact Text.isBlank_of_isDigit hc

theorem twoDigits_takes {n : Nat} {rest : List Char} (h : n < 100) (hrest : Stops rest) :
    Takes Scan.twoDigits (paddedDigits 2 n ++ rest) n rest := by
  refine (blanks_takes (starts_paddedDigits 2 n rest)).bind ?_
  refine (digits_takes (fun _ => isDigit_of_mem_paddedDigits) (paddedDigits_ne_nil 2 n)
    (length_paddedDigits (by decide) h).le hrest).bind ?_
  rw [value_paddedDigits]
  rfl

theorem separator_takes {c : Char} (h : Text.isBlank c = false) (rest : List Char) :
    Takes (Scan.separator c) (c :: rest) () rest := by
  have hstarts : Starts (c :: rest) := by
    rintro d ⟨rfl⟩
    exact h
  refine (blanks_takes hstarts).bind ?_
  change (if c = c then _ else _ : Scan Unit).run _ = _
  rw [if_pos rfl]
  rfl

/-! ### Dates and times -/

theorem year_takes (year : Int) {rest : List Char} (hrest : Stops rest) :
    Takes Scan.year ((yearText year).toList ++ rest) year rest := by
  have hdigits : ∀ c ∈ paddedDigits 4 year.natAbs, c.isDigit = true :=
    fun _ => isDigit_of_mem_paddedDigits
  have hne : paddedDigits 4 year.natAbs ≠ [] := paddedDigits_ne_nil 4 _
  rw [yearText]
  -- a sign stands before a year that does not have four digits
  split
  · next hneg =>
    rw [String.toList_append, toList_padded]
    have hsign : Starts ('-' :: (paddedDigits 4 year.natAbs ++ rest)) := by
      rintro c ⟨rfl⟩
      decide
    refine (blanks_takes hsign).bind <| (takes_get _).bind <| (takes_set _ _).bind <|
      (allDigits_takes hdigits hne hrest).bind ?_
    rw [value_paddedDigits, show -(year.natAbs : Int) = year by omega]
    exact takes_pure year rest
  · next hnat =>
    split
    · rw [String.toList_append, toList_padded]
      have hsign : Starts ('+' :: (paddedDigits 4 year.natAbs ++ rest)) := by
        rintro c ⟨rfl⟩
        decide
      refine (blanks_takes hsign).bind <| (takes_get _).bind <| (takes_set _ _).bind <|
        (allDigits_takes hdigits hne hrest).bind ?_
      rw [value_paddedDigits, show (year.natAbs : Int) = year by omega]
      exact takes_pure year rest
    · next hshort =>
      rw [toList_padded]
      have hread : Takes (Scan.digits 4) (paddedDigits 4 year.natAbs ++ rest)
          (paddedDigits 4 year.natAbs) rest :=
        digits_takes hdigits hne
          (length_paddedDigits (n := year.natAbs) (by decide) (by omega)).le hrest
      refine (blanks_takes (starts_paddedDigits 4 _ rest)).bind <| (takes_get _).bind ?_
      -- the first character is a digit, and so not one of the signs
      obtain ⟨c, digits, hfirst, hc⟩ := exists_digit 4 year.natAbs
      split
      · next hminus =>
        rw [hfirst] at hminus
        obtain ⟨rfl, -⟩ := List.cons.inj hminus
        exact absurd hc (by decide)
      · next hplus =>
        rw [hfirst] at hplus
        obtain ⟨rfl, -⟩ := List.cons.inj hplus
        exact absurd hc (by decide)
      · refine hread.bind ?_
        rw [value_paddedDigits, show (year.natAbs : Int) = year by omega]
        exact takes_pure year rest

theorem stops_cons {c : Char} (h : c.isDigit = false) (rest : List Char) : Stops (c :: rest) := by
  rintro d ⟨rfl⟩
  exact h

/-- The text of a date. -/
def dateChars (date : Date) : List Char :=
  (yearText date.year).toList ++ '-' :: (paddedDigits 2 date.month.toNat ++
    '-' :: paddedDigits 2 date.day.toNat)

theorem date_takes {date : Date} (hvalid : date.Valid) (hfirst : firstYear ≤ date.year)
    (hlast : date.year ≤ lastYear) {rest : List Char} (hrest : Stops rest) :
    Takes Scan.date (dateChars date ++ rest) date rest := by
  obtain ⟨hmonth, hmonth', hday, hday'⟩ := id hvalid
  have hshort : Date.daysInMonth date.year date.month ≤ 31 := by
    unfold Date.daysInMonth
    split_ifs <;> decide
  rw [dateChars, List.append_assoc, List.cons_append, List.append_assoc, List.cons_append]
  have hdash : ∀ text, Stops ('-' :: text) := stops_cons (by decide)
  refine (year_takes date.year (hdash _)).bind <| (separator_takes (by decide) _).bind <|
    (twoDigits_takes (by omega) (hdash _)).bind <| (separator_takes (by decide) _).bind <|
    (twoDigits_takes (by omega) hrest).bind ?_
  rw [Int.toNat_of_nonneg (by omega), Int.toNat_of_nonneg (by omega)]
  change Takes (if date.Valid ∧ firstYear ≤ date.year ∧ date.year ≤ lastYear then pure date
    else failure) rest date rest
  rw [if_pos ⟨hvalid, hfirst, hlast⟩]
  exact takes_pure date rest

theorem point_takes (width n : Nat) (hwidth : 0 < width) (hnine : width ≤ 9) (h : n < 10 ^ width)
    {rest : List Char} (hrest : Stops rest) :
    Takes Scan.fraction ('.' :: (paddedDigits width n ++ rest)) (n * 10 ^ (9 - width)) rest := by
  have hlength := length_paddedDigits hwidth h
  refine (takes_get _).bind <| (takes_set _ _).bind <|
    (allDigits_takes (fun _ => isDigit_of_mem_paddedDigits) (paddedDigits_ne_nil width n)
      hrest).bind ?_
  dsimp only
  rw [List.take_of_length_le (hlength.trans_le hnine), value_paddedDigits, hlength]
  exact takes_pure _ rest

/-- The zone of universal time. -/
def zoneChars : List Char :=
  ['Z']

theorem fraction_takes {nano : Nat} (h : nano < nanosPerSecond) :
    Takes Scan.fraction ((fractionText nano).toList ++ zoneChars) nano zoneChars := by
  have hzone : Stops zoneChars := stops_cons (by decide) []
  rw [nanosPerSecond] at h
  rw [fractionText]
  split
  · next hzero =>
    rw [hzero]
    rfl
  · split
    · rw [String.toList_append, toList_padded]
      have hread := point_takes 3 (nano / 1000000) (by decide) (by decide)
        (by omega) hzone
      rwa [show nano / 1000000 * 10 ^ (9 - 3) = nano by omega] at hread
    · split
      · rw [String.toList_append, toList_padded]
        have hread := point_takes 6 (nano / 1000) (by decide) (by decide)
          (by omega) hzone
        rwa [show nano / 1000 * 10 ^ (9 - 6) = nano by omega] at hread
      · rw [String.toList_append, toList_padded]
        have hread := point_takes 9 nano (by decide) (by decide)
          (by omega) hzone
        rwa [Nat.sub_self, pow_zero, mul_one] at hread

/-- The text of a time of day up to the whole second. -/
def timeChars (hour minute second : Nat) : List Char :=
  paddedDigits 2 hour ++ ':' :: (paddedDigits 2 minute ++ ':' :: paddedDigits 2 second)

/-- The second of the day and the nanosecond that a time of day stands for. -/
def timeOf (hour minute second nano : Nat) : Nat × Nat :=
  if second = 60 then (hour * 3600 + minute * 60 + 59, nanosPerSecond + nano)
  else (hour * 3600 + minute * 60 + second, nano)

theorem time_takes {hour minute second nano : Nat} (hhour : hour < 24) (hminute : minute < 60)
    (hsecond : second ≤ 60) {text rest : List Char} (hfraction : Takes Scan.fraction text nano rest)
    (htext : Stops text) :
    Takes Scan.time (timeChars hour minute second ++ text) (timeOf hour minute second nano)
      rest := by
  rw [timeChars, List.append_assoc, List.cons_append, List.append_assoc, List.cons_append]
  have hcolon : ∀ text, Stops (':' :: text) := stops_cons (by decide)
  refine (twoDigits_takes (by omega) (hcolon _)).bind <| (separator_takes (by decide) _).bind <|
    (twoDigits_takes (by omega) (hcolon _)).bind <| (separator_takes (by decide) _).bind <|
    (twoDigits_takes (by omega) htext).bind <| hfraction.bind ?_
  rw [if_pos ⟨hhour, hminute, hsecond⟩, timeOf]
  split <;> exact takes_pure _ rest

theorem stops_fraction (nano : Nat) : Stops ((fractionText nano).toList ++ zoneChars) := by
  rw [fractionText]
  split
  · exact stops_cons (by decide) []
  · split_ifs <;> rw [String.toList_append] <;> exact stops_cons (c := '.') (by decide) _

theorem zone_takes : Takes Scan.zone zoneChars 0 [] :=
  rfl

/-! ### Instants -/

theorem toList_secondsText (a : Instant) :
    a.secondsText.toList = dateChars a.date ++ 'T' ::
      timeChars (a.timeOfDay.toNat / 3600) (a.timeOfDay.toNat / 60 % 60)
        (a.timeOfDay.toNat % 60 + a.nano / nanosPerSecond) := by
  simp [secondsText, dateChars, timeChars, toList_padded]

/-- The day of an instant is in the years of instants. -/
theorem year_date (a : Instant) : firstYear ≤ a.date.year ∧ a.date.year ≤ lastYear := by
  have hfirst := a.first_le
  have hlast := a.le_last
  exact Date.year_ofDayNumber (by rw [secondsPerDay]; omega) (by rw [secondsPerDay]; omega)

theorem timeOfDay_bounds (a : Instant) : 0 ≤ a.timeOfDay ∧ a.timeOfDay < secondsPerDay :=
  ⟨Int.emod_nonneg _ (by decide), Int.emod_lt_of_pos _ (by decide)⟩

/-- A second beyond the 59th is a leap second, in which the second before it holds on. -/
theorem timeOf_parts (a : Instant) :
    timeOf (a.timeOfDay.toNat / 3600) (a.timeOfDay.toNat / 60 % 60)
      (a.timeOfDay.toNat % 60 + a.nano / nanosPerSecond) (a.nano % nanosPerSecond) =
        (a.timeOfDay.toNat, a.nano) := by
  have hlt := a.nano_lt
  have hleap := a.leap
  rw [timeOf, timeOfDay, secondsPerDay]
  rw [nanosPerSecond] at *
  split
  · exact Prod.ext (by dsimp only; omega) (by dsimp only; omega)
  · exact Prod.ext (by dsimp only; omega) (by dsimp only; omega)

theorem second_bounds (a : Instant) :
    a.timeOfDay.toNat % 60 + a.nano / nanosPerSecond ≤ 60 := by
  have := a.nano_lt
  rw [nanosPerSecond] at *
  omega

theorem of?_parts (a : Instant) :
    of? (a.date.dayNumber * secondsPerDay + a.timeOfDay.toNat - 0) a.nano = some a := by
  have hsecond : a.date.dayNumber * secondsPerDay + a.timeOfDay.toNat - 0 = a.second := by
    rw [date, Date.dayNumber_ofDayNumber, timeOfDay, secondsPerDay]
    omega
  rw [hsecond, of?_eq_self]

theorem instant_takes (a : Instant) : Takes Scan.instant a.text.toList a [] := by
  obtain ⟨hfirst, hlast⟩ := year_date a
  have htime := timeOfDay_bounds a
  have hsecond := second_bounds a
  rw [secondsPerDay] at htime
  rw [text, String.toList_append, String.toList_append, toList_secondsText, List.append_assoc,
    List.append_assoc, List.cons_append]
  refine (date_takes (Date.valid_ofDayNumber _) hfirst hlast (stops_cons (by decide) _)).bind <|
    Takes.bind (a := ()) rfl <|
    (time_takes (by omega) (by omega) hsecond
      (fraction_takes (Nat.mod_lt _ (by decide))) (stops_fraction _)).bind ?_
  -- the zone is at the end, and differs from universal time by nothing
  rw [timeOf_parts]
  refine zone_takes.bind <| Takes.bind (a := ()) rfl <| (takes_get _).bind ?_
  change (of? (a.date.dayNumber * secondsPerDay + a.timeOfDay.toNat - 0) a.nano).bind
    (fun b => some (b, [])) = _
  rw [of?_parts]
  rfl

/-- **The text of an instant is read back.** -/
theorem read?_text (a : Instant) : read? a.text = some a := by
  have h := instant_takes a
  rw [Takes] at h
  rw [read?, h]
  rfl

/-! ### Whole seconds -/

/-- The instant without its fraction of a second. -/
def whole (a : Instant) : Instant where
  second := a.second
  nano := a.nano / nanosPerSecond * nanosPerSecond
  first_le := a.first_le
  le_last := a.le_last
  nano_lt := (Nat.div_mul_le_self ..).trans_lt a.nano_lt
  leap := fun h => a.leap (h.trans (Nat.div_mul_le_self ..))

theorem whole_of_mod {a : Instant} (h : a.nano % nanosPerSecond = 0) : a.whole = a :=
  ext rfl (Nat.div_mul_cancel (Nat.dvd_of_mod_eq_zero h))

theorem secondsText_whole (a : Instant) : a.whole.secondsText = a.secondsText := by
  have hnano : a.whole.nano / nanosPerSecond = a.nano / nanosPerSecond :=
    Nat.mul_div_cancel _ (by decide)
  rw [secondsText, hnano]
  rfl

theorem wholeText_whole (a : Instant) : a.whole.wholeText = a.wholeText := by
  rw [wholeText, wholeText, secondsText_whole]

/-- **The text to the whole second is read back without the fraction.** -/
theorem read?_wholeText (a : Instant) : read? a.wholeText = some a.whole := by
  have hnone : a.whole.nano % nanosPerSecond = 0 := Nat.mul_mod_left ..
  have h := read?_text a.whole
  rw [text, hnone, secondsText_whole, fractionText, if_pos rfl, String.append_empty] at h
  exact h

end ScaleMetrics.Instant
