import ScaleMetrics.Proofs.Scaling

/-!
# Proofs — Words

The reading of a quantity once more, with every step on words checked: places and exponents in 32
bits, digits and magnitudes in 128 bits.  A step faults when its result does not fit or its divisor
is zero (`Words.Fault`), where the unchecked one wraps; no step of a text of less than 2³¹ bytes
does, but for two: the absolute value of the least exponent (`LeastExponent`), and the difference of
exponent and places when there are almost 2³¹ places (`Literal.ShiftHeld`).

* `Words.exponent?_eq`, `Words.literal_eq`: a text is read with checks as it is read.
* `Words.magnitude_eq`, `Words.amount_eq`: and so scaled.
* `Words.milli_spelled`, `Words.milli_fault`: so a text has the same outcome, unless a step faults.
* `milli_sound`: the outcome of any text.  Both exceptions are needed (`milli_overflows`).
-/

namespace ScaleMetrics.Quantity

namespace Words

/-- What a step on words comes to without a result. -/
inductive Fault where
  | overflow
  | divisionByZero
  deriving DecidableEq

/-! ### Steps -/

/-- A number of a word, from the lowest to below the bound. -/
def word (low bound n : Int) : Except Fault Int :=
  if low ≤ n ∧ n < bound then .ok n else .error .overflow

def signed32 (n : Int) : Except Fault Int :=
  word (-2 ^ 31) (2 ^ 31) n

def signed128 (n : Int) : Except Fault Int :=
  word (-2 ^ 127) (2 ^ 127) n

/-- Division, rounded up; a divisor that is too large to hold leaves one unit at most. -/
def ceilDiv (n : Nat) : Option Nat → Except Fault Nat
  | none => .ok (if n = 0 then 0 else 1)
  | some d =>
      if d = 0 then .error .divisionByZero
      else (signed128 (Quantity.ceilDiv n d)).map Int.toNat

/-! ### The program with checks -/

/-- The exponent behind `e` or `E`, held in 32 bits as is its absolute value. -/
def exponent? (text : List Char) : Except Fault (Option Multiplier) :=
  match (Digits.int? text).filter fun e => low32 e = e with
  | some e => do
      let size ← signed32 e.natAbs
      return if size ≤ exponentLimit then some (.decimal e) else none
  | none => return none

/-- The multiplier a suffix stands for. -/
def suffix? : List Char → Except Fault (Option Multiplier)
  | ['E'] => return some (.decimal 18)
  | ['E', 'i'] => return some (.binary 60)
  | 'e' :: exponent => exponent? exponent
  | 'E' :: exponent => exponent? exponent
  | symbol => return Multiplier.ofSuffix? symbol

/-- Reads a quantity that has no blanks around it. -/
def literal (text : List Char) : Except Fault (Except Error Literal) :=
  let unsigned := (splitSign text).2
  let number := unsigned.takeWhile isNumeral
  let suffix := unsigned.dropWhile isNumeral
  let whole := number.takeWhile (· != '.')
  let fraction := (number.dropWhile (· != '.')).drop 1
  let digits := Digits.value (whole ++ fraction)
  if text = [] then return .error .empty
  else if whole = [] ∧ fraction = [] then return .error .missingDigits
  else if '.' ∈ fraction then return .error .manyPoints
  else if magnitudeBound ≤ digits then return .error .tooManyDigits
  else do
    let multiplier? ← suffix? suffix
    return match multiplier? with
      | some multiplier => .ok ⟨(splitSign text).1, digits, fraction.length, multiplier⟩
      | none => .error (.unknownSuffix (String.ofList suffix))

/-- The magnitude in milli-units, rounded up.  Powers and products are checked on the way: what
cannot be held has no result, and is no fault.  Nor is a number of places that wraps. -/
def magnitude (q : Literal) : Except Fault (Option Nat) :=
  match q.multiplier with
  | .decimal exponent => do
      let raised ← signed32 (exponent + 3)
      let shift ← signed32 (raised - low32 q.places)
      if 0 ≤ shift then
        return (power? shift.toNat).bind fun power => hold (q.digits * power)
      else
        some <$> ceilDiv q.digits (power? (-shift).toNat)
  | .binary exponent =>
      match (hold (2 ^ exponent)).bind fun power => (hold (q.digits * power)).bind fun units =>
        hold (units * 1000) with
      | some milli => some <$> ceilDiv milli (power? (q.places % 0x100000000))
      | none => return none

/-- The literal in milli-units. -/
def amount (q : Literal) : Except Fault (Except Error Milli) := do
  match ← magnitude q with
  | some magnitude =>
      let value ← signed128 (if q.negative then -magnitude else magnitude)
      return match Milli.ofInt? value with
        | some amount => .ok amount
        | none => .error .outOfRange
  | none => return .error .outOfRange

/-- A quantity in milli-units. -/
def milli (text : String) : Except Fault (Except Error Milli) := do
  match ← literal (Text.trim text.toList) with
  | .ok q => amount q
  | .error e => return .error e

/-! ### Steps that do not fault -/

theorem word_of_mem {low bound n : Int} (h : low ≤ n ∧ n < bound) : word low bound n = .ok n :=
  if_pos h

theorem ceilDiv_power {n : Nat} (hn : n < magnitudeBound) (k : Nat) :
    ceilDiv n (power? k) = .ok (ceilDivBy n (power? k)) := by
  have hbound : (magnitudeBound : Int) = 2 ^ 127 := rfl
  rw [power?_eq]
  cases hpower : hold (10 ^ k) with
  | none => rfl
  | some d =>
      obtain ⟨-, rfl⟩ := hold_eq_some_iff.1 hpower
      have hpos : 0 < 10 ^ k := by positivity
      have hle := ceilDiv_le_self n hpos
      rw [ceilDiv, if_neg hpos.ne', signed128, word_of_mem (by omega)]
      rfl

theorem exponent?_eq {text : List Char} (h : Digits.int? text ≠ some (-0x80000000)) :
    exponent? text = .ok (Multiplier.ofExponent? text) := by
  rw [exponent?, Multiplier.ofExponent?]
  cases hint : Digits.int? text with
  | none => rfl
  | some e =>
      have hne : e ≠ -0x80000000 := fun he => h (hint.trans (congrArg some he))
      by_cases hheld : low32 e = e
      · have hlow := Int.le_bmod (x := e) (m := 0x100000000) (by decide)
        have hhigh := Int.bmod_lt (x := e) (m := 0x100000000) (by decide)
        rw [← low32, hheld] at hlow hhigh
        have hsize : signed32 e.natAbs = .ok (e.natAbs : Int) := word_of_mem (by omega)
        simp only [Option.filter_some, hheld, decide_true, if_true, true_and,
          low32_of_held (n := e.natAbs) (by omega)]
        exact bind_ok hsize rfl
      · simp only [Option.filter_some, hheld, decide_false, false_and, if_false]
        rfl

theorem suffix?_eq {text : List Char} (hleast : ¬ LeastSuffix text) :
    suffix? text = .ok (Multiplier.ofSuffix? text) := by
  unfold suffix?
  split
  · rfl
  · rfl
  · exact exponent?_eq fun h => hleast (leastSuffix_of_mark (.inl rfl) h)
  · next exponent hnil hbinary =>
    rw [ofSuffix?_of_mark (.inr rfl) hnil hbinary]
    exact exponent?_eq fun h => hleast (leastSuffix_of_mark (.inr rfl) h)
  · rfl

/-- **A text is read with checks** as it is read. -/
theorem literal_eq {text : List Char} (hleast : ¬ LeastExponent text) :
    literal text = .ok (Literal.ofChars text) := by
  by_cases hne : text = []
  · rw [hne]
    rfl
  rw [ofChars_of_parts hne (Prod.eta _).symm rfl rfl rfl rfl, literal, if_neg hne]
  split_ifs
  · rfl
  · rfl
  · rfl
  · refine bind_ok (suffix?_eq hleast) ?_
    cases Multiplier.ofSuffix? ((splitSign text).2.dropWhile isNumeral) <;> rfl

variable {q : Literal}

theorem magnitude_binary_eq {negative : Bool} {digits places e : Nat} (he : e ≤ 60) :
    magnitude ⟨negative, digits, places, .binary e⟩ =
      .ok (Literal.magnitude ⟨negative, digits, places, .binary e⟩) := by
  have hpower : hold (2 ^ e) = some (2 ^ e) :=
    hold_eq_some_iff.2 ⟨(Nat.pow_le_pow_right (by decide) he).trans_lt (by decide), rfl⟩
  simp only [magnitude, Literal.magnitude, Nat.pow_eq, hpower, Option.bind_some]
  cases hold (digits * 2 ^ e) with
  | none => rfl
  | some units =>
      simp only [Option.bind_some]
      cases hmilli : hold (units * 1000) with
      | none =>
          exact congrArg Except.ok (by rw [Option.bind_eq_bind, Option.bind_some, hmilli]; rfl)
      | some milli =>
          obtain ⟨hlt, rfl⟩ := hold_eq_some_iff.1 hmilli
          simp only [ceilDiv_power hlt, Option.bind_eq_bind, Option.bind_some, hmilli]
          rfl

theorem magnitude_eq (h : q.Readable) (hshift : q.ShiftHeld) :
    magnitude q = .ok q.magnitude := by
  obtain ⟨negative, digits, places, multiplier⟩ := q
  cases multiplier with
  | decimal e =>
      have hexponent := h.decimal_bounds e rfl
      have hplaces : places < 2 ^ 31 := h.places_lt
      have hlow : -2 ^ 31 ≤ e + 3 - (places : Int) := hshift e rfl
      have hwrapped : low32 (e + 3 - places) = e + 3 - places := low32_of_held (by omega)
      have hcast : low32 (places : Int) = places := low32_of_held (by omega)
      simp only [magnitude, Literal.magnitude, hwrapped, hcast, ceilDiv_power h.digits_lt]
      refine bind_ok (word_of_mem (by omega)) (bind_ok (word_of_mem ⟨hlow, by omega⟩) ?_)
      split <;> rfl
  | binary e => exact magnitude_binary_eq (h.binary_le e rfl)

theorem magnitude_fault (h : q.Readable) (hshift : ¬ q.ShiftHeld) :
    magnitude q = .error .overflow := by
  obtain ⟨negative, digits, places, multiplier⟩ := q
  unfold Literal.ShiftHeld at hshift
  push Not at hshift
  obtain ⟨e, rfl : multiplier = .decimal e, hlow⟩ := hshift
  have hexponent := h.decimal_bounds e rfl
  have hplaces : places < 2 ^ 31 := h.places_lt
  have hcast : low32 (places : Int) = places := low32_of_held (by omega)
  simp only [magnitude, hcast]
  refine bind_eq_error.2 (.inr ⟨_, word_of_mem (by omega), ?_⟩)
  exact bind_eq_error.2 (.inl (if_neg fun hmem => absurd hmem.1 (Int.not_le.2 hlow)))

/-- **A literal is scaled with checks** as it is scaled. -/
theorem amount_eq (h : q.Readable) (hshift : q.ShiftHeld) : amount q = .ok q.milli := by
  refine bind_ok (magnitude_eq h hshift) ?_
  rw [Literal.milli]
  cases hmagnitude : q.magnitude with
  | none => rfl
  | some n =>
      have hbound : (magnitudeBound : Int) = 2 ^ 127 := rfl
      have hlt := Literal.magnitude_lt h hmagnitude
      refine bind_ok (word_of_mem (?_ : _ ≤ (if q.negative then -(n : Int) else n) ∧ _ < _)) ?_
      · split <;> omega
      · rfl

theorem amount_fault (h : q.Readable) (hshift : ¬ q.ShiftHeld) : amount q = .error .overflow :=
  bind_eq_error.2 (.inl (magnitude_fault h hshift))

end Words

/-! ### Texts -/

section

variable {text : String} {s : Spelling}

/-- Without, there are almost 2³¹ places. -/
theorem Spells.places_of_not_shiftHeld (h : Spells (Text.trim text.toList) s)
    (hshift : ¬ s.literal.ShiftHeld) :
    2 ^ 31 - 32 ≤ s.fraction.length ∧ ∃ e, s.multiplier = .decimal e := by
  obtain ⟨-, -, suffix, -, -, hsuffix, -⟩ := h.exists_parts
  unfold Literal.ShiftHeld at hshift
  push Not at hshift
  obtain ⟨e, he, hlow⟩ := hshift
  have hexponent := hsuffix.decimal_bounds he
  rw [s.places_literal] at hlow
  exact ⟨by omega, e, he⟩

namespace Words

variable (hsize : text.utf8ByteSize < 2 ^ 31)

include hsize

/-- **A text has the same outcome with checks**, when the difference of exponent and places is
held. -/
theorem milli_spelled (hs : Spells (Text.trim text.toList) s) (hdigits : s.digits < 2 ^ 127)
    (hshift : s.literal.ShiftHeld) : milli text = .ok (Quantity.milli text) := by
  have hbound : s.digits < magnitudeBound := hdigits
  refine bind_ok (literal_eq hs.not_leastExponent) ?_
  rw [milli_of_spells hs, hs.ofChars_eq, if_neg (Nat.not_le.2 hbound),
    if_neg (Nat.not_le.2 hbound)]
  exact amount_eq (hs.readable hbound (hs.length_lt.trans hsize)) hshift

theorem milli_fault (hs : Spells (Text.trim text.toList) s) (hdigits : s.digits < 2 ^ 127)
    (hshift : ¬ s.literal.ShiftHeld) : milli text = .error .overflow := by
  have hbound : s.digits < magnitudeBound := hdigits
  refine bind_eq_error.2 (.inr ⟨_, literal_eq hs.not_leastExponent, ?_⟩)
  rw [hs.ofChars_eq, if_neg (Nat.not_le.2 hbound)]
  exact amount_fault (hs.readable hbound (hs.length_lt.trans hsize)) hshift

end Words

end

end ScaleMetrics.Quantity
