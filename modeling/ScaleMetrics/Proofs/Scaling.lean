import ScaleMetrics.Proofs.RunningSums
import ScaleMetrics.Proofs.Spelling

/-!
# Proofs — Scaling

What a spelled quantity amounts to, exactly, and what is computed of it.

* `Literal.ceil_exact`: a magnitude that is found is the exact one, rounded up.
* `Literal.magnitude_eq_none_iff`: none is found of what is too large, be it on the way only
  (`Literal.Overlarge`).
* `Literal.milli_eq_ok_iff`, `Literal.milli_eq_error_iff`: so a literal has its exact amount when
  that can be held and was not too large on the way, and is out of range otherwise.
* `milli_of_spells`, `error_of_not_spells`: a text is scaled as it is spelled, and has no amount
  when it spells none.
-/

namespace ScaleMetrics.Quantity

/-! ### Exact amounts -/

/-- The number that a suffix multiplies by. -/
def Multiplier.ratio : Multiplier → ℚ
  | .decimal exponent => 10 ^ exponent
  | .binary exponent => 2 ^ exponent

namespace Spelling

variable (s : Spelling)

/-- The number in front of the suffix. -/
def number : ℚ :=
  Digits.value s.whole + Digits.value s.fraction / 10 ^ s.fraction.length

/-- The quantity without its sign, in milli-units. -/
def exact : ℚ :=
  s.number * s.multiplier.ratio * 1000

/-- The quantity in milli-units; a fraction of one rounds away from zero. -/
def milli : ℤ :=
  (if s.negative then -1 else 1) * ⌈s.exact⌉

end Spelling

namespace Literal

variable {q : Literal} {n : Nat}

/-- The literal without its sign, in milli-units. -/
def exact (q : Literal) : ℚ :=
  q.digits / 10 ^ q.places * q.multiplier.ratio * 1000

theorem exact_decimal {negative : Bool} {digits places : Nat} {e : Int} :
    exact ⟨negative, digits, places, .decimal e⟩ = digits * (10 : ℚ) ^ (e + 3 - places) := by
  rw [exact, Multiplier.ratio, zpow_sub₀ (by norm_num), zpow_add₀ (by norm_num), zpow_natCast]
  norm_num
  ring

theorem exact_binary {negative : Bool} {digits places e : Nat} :
    exact ⟨negative, digits, places, .binary e⟩ =
      (digits * 2 ^ e * 1000 : Nat) / (10 ^ places : Nat) := by
  rw [exact, Multiplier.ratio]
  push_cast
  ring

end Literal

theorem Spelling.exact_literal (s : Spelling) : s.literal.exact = s.exact := by
  have hnumber : s.number = s.digits / 10 ^ s.fraction.length := by
    have hpow : (10 : ℚ) ^ s.fraction.length ≠ 0 := by positivity
    rw [Spelling.number, Spelling.digits, Digits.value_append, Nat.pow_eq]
    push_cast
    field_simp
  rw [Literal.exact, Spelling.exact, hnumber]
  rfl

/-! ### Magnitudes -/

theorem hold_eq_some_iff {n m : Nat} : hold n = some m ↔ n < magnitudeBound ∧ n = m := by
  rw [hold]
  split <;> simp [*]

theorem hold_eq_none_iff {n : Nat} : hold n = none ↔ magnitudeBound ≤ n := by
  rw [hold]
  split
  · next h => simpa using h
  · next h => simpa using h

theorem ceilDiv_bounds (n : Nat) {d : Nat} (hd : 0 < d) :
    n ≤ ceilDiv n d * d ∧ ceilDiv n d * d < n + d := by
  have hdiv := Nat.mod_add_div n d
  have hlt := Nat.mod_lt n hd
  rw [ceilDiv, Nat.add_mul, Nat.mul_comm (n / d)]
  split <;> omega

theorem ceilDiv_le_self (n : Nat) {d : Nat} (hd : 0 < d) : ceilDiv n d ≤ n := by
  have hlt := (ceilDiv_bounds n hd).2
  have hle : n ≤ n * d := Nat.le_mul_of_pos_right n hd
  have hmul : ceilDiv n d * d < (n + 1) * d := by
    rw [Nat.add_mul]
    omega
  exact Nat.le_of_lt_succ (Nat.lt_of_mul_lt_mul_right hmul)

theorem ceil_eq_ceilDiv (n : Nat) {d : Nat} (hd : 0 < d) : ⌈(n / d : ℚ)⌉ = ceilDiv n d := by
  obtain ⟨hle, hlt⟩ := ceilDiv_bounds n hd
  have hpos : (0 : ℚ) < d := by exact_mod_cast hd
  rw [Int.ceil_eq_iff, Int.cast_natCast, lt_div_iff₀ hpos, div_le_iff₀ hpos, sub_mul, one_mul,
    sub_lt_iff_lt_add]
  exact ⟨by exact_mod_cast hlt, by exact_mod_cast hle⟩

theorem zpow_of_nonneg {shift : ℤ} (h : 0 ≤ shift) :
    (10 : ℚ) ^ shift = (10 ^ shift.toNat : Nat) := by
  obtain ⟨n, rfl⟩ := Int.eq_ofNat_of_zero_le h
  simp

theorem zpow_of_neg {shift : ℤ} (h : shift < 0) :
    (10 : ℚ) ^ shift = ((10 ^ (-shift).toNat : Nat) : ℚ)⁻¹ := by
  rw [← zpow_of_nonneg (by omega), zpow_neg, inv_inv]

theorem bound_le_power {n : Nat} : magnitudeBound ≤ 10 ^ n ↔ 39 ≤ n := by
  have hbelow : 10 ^ 38 < magnitudeBound := by decide
  have habove : magnitudeBound ≤ 10 ^ 39 := by decide
  constructor
  · intro h
    by_contra hlt
    have : 10 ^ n ≤ 10 ^ 38 := Nat.pow_le_pow_right (by decide) (by omega)
    omega
  · intro h
    exact habove.trans (Nat.pow_le_pow_right (by decide) h)

/-- Powers that are not computed are those that cannot be held. -/
theorem power?_eq (n : Nat) : power? n = hold (10 ^ n) := by
  rw [power?]
  split
  · rfl
  · rw [hold_eq_none_iff.2 (bound_le_power.2 (by omega))]

/-- A divisor that cannot be held is greater than what is divided. -/
theorem ceilDivBy_power {n : Nat} (hn : n < magnitudeBound) (k : Nat) :
    ceilDivBy n (power? k) = ceilDiv n (10 ^ k) := by
  rw [power?_eq]
  cases hpower : hold (10 ^ k) with
  | some d => rw [(hold_eq_some_iff.1 hpower).2, ceilDivBy]
  | none =>
      have hlt := hn.trans_le (hold_eq_none_iff.1 hpower)
      rw [ceilDivBy, ceilDiv, Nat.div_eq_of_lt hlt, Nat.mod_eq_of_lt hlt, Nat.zero_add]

namespace Literal

/-- Digits, exponents and places are those that can be read of a text that is not too long. -/
structure Readable (q : Literal) : Prop where
  digits_lt : q.digits < magnitudeBound
  decimal_bounds : ∀ e, q.multiplier = .decimal e → -36 ≤ e ∧ e ≤ 36
  binary_le : ∀ e, q.multiplier = .binary e → e ≤ 60
  places_lt : q.places < 2 ^ 31

/-- The exponent of milli-units less the places is held in 32 bits. -/
def ShiftHeld (q : Literal) : Prop :=
  ∀ e, q.multiplier = .decimal e → -2 ^ 31 ≤ e + 3 - q.places

variable {q : Literal} {n : Nat} {negative : Bool} {digits places : Nat} {e : Int}

theorem exact_of_nonneg (h : 0 ≤ e + 3 - places) :
    exact ⟨negative, digits, places, .decimal e⟩ =
      (digits * 10 ^ (e + 3 - places).toNat : Nat) := by
  rw [exact_decimal, zpow_of_nonneg h]
  push_cast
  rfl

theorem exact_of_neg (h : e + 3 - places < 0) :
    exact ⟨negative, digits, places, .decimal e⟩ =
      digits / (10 ^ (-(e + 3 - places)).toNat : Nat) := by
  rw [exact_decimal, zpow_of_neg h, div_eq_mul_inv]

section

variable (hq : Readable ⟨negative, digits, places, .decimal e⟩)

include hq

theorem magnitude_of_nonneg (h : 0 ≤ e + 3 - places) :
    magnitude ⟨negative, digits, places, .decimal e⟩ =
      (hold (10 ^ (e + 3 - places).toNat)).bind fun power => hold (digits * power) := by
  have hexponent := hq.decimal_bounds e rfl
  simp only [magnitude, low32_of_held (n := e + 3 - places) (by omega), power?_eq]
  exact if_pos h

theorem magnitude_of_neg (h : e + 3 - places < 0) (hheld : -2 ^ 31 ≤ e + 3 - (places : ℤ)) :
    magnitude ⟨negative, digits, places, .decimal e⟩ =
      some (ceilDiv digits (10 ^ (-(e + 3 - places)).toNat)) := by
  simp only [magnitude, low32_of_held (n := e + 3 - places) (by omega),
    ceilDivBy_power hq.digits_lt]
  exact if_neg (Int.not_le.2 h)

/-- A difference that wraps is the exponent of a power that is too large. -/
theorem magnitude_of_not_held (h : e + 3 - (places : ℤ) < -2 ^ 31) :
    magnitude ⟨negative, digits, places, .decimal e⟩ = none := by
  have hexponent := hq.decimal_bounds e rfl
  have hplaces : places < 2 ^ 31 := hq.places_lt
  have hwrapped : low32 (e + 3 - places) = e + 3 - places + 0x100000000 := by
    have hsame : low32 (e + 3 - places) = low32 (e + 3 - places + 0x100000000) :=
      (Int.add_bmod_right _ _).symm
    rw [hsame, low32_of_held (by omega)]
  have hpower : hold (10 ^ (e + 3 - places + 0x100000000).toNat) = none :=
    hold_eq_none_iff.2 (bound_le_power.2 (by omega))
  simp only [magnitude, hwrapped, power?_eq, hpower]
  exact if_pos (by omega)

end

theorem magnitude_binary {e : Nat} (hplaces : places < 2 ^ 31) :
    magnitude ⟨negative, digits, places, .binary e⟩ =
      (hold (digits * 2 ^ e)).bind fun units => (hold (units * 1000)).bind fun milli =>
        some (ceilDiv milli (10 ^ places)) := by
  have hwrapped : places % 0x100000000 = places := Nat.mod_eq_of_lt (by omega)
  rw [magnitude]
  dsimp only
  rw [hwrapped]
  refine Option.bind_congr fun units _ => Option.bind_congr fun milli hmilli => ?_
  obtain ⟨hlt, rfl⟩ := hold_eq_some_iff.1 hmilli
  exact congrArg some (ceilDivBy_power hlt places)

/-- **A magnitude that is found** is the exact one, rounded up. -/
theorem ceil_exact (hq : q.Readable) (h : q.magnitude = some n) : ⌈q.exact⌉ = n := by
  obtain ⟨negative, digits, places, multiplier⟩ := q
  cases multiplier with
  | decimal e =>
      rcases Int.lt_or_le (e + 3 - places) (-2 ^ 31) with hheld | hheld
      · rw [magnitude_of_not_held hq hheld] at h
        cases h
      rcases Int.lt_or_le (e + 3 - places) 0 with hshift | hshift
      · rw [magnitude_of_neg hq hshift hheld] at h
        rw [exact_of_neg hshift, ceil_eq_ceilDiv _ (by positivity), Option.some.inj h]
      · rw [magnitude_of_nonneg hq hshift] at h
        obtain ⟨power, hpower, hproduct⟩ := Option.bind_eq_some_iff.1 h
        obtain ⟨-, rfl⟩ := hold_eq_some_iff.1 hpower
        obtain ⟨-, rfl⟩ := hold_eq_some_iff.1 hproduct
        rw [exact_of_nonneg hshift, Int.ceil_natCast]
  | binary e =>
      rw [magnitude_binary hq.places_lt] at h
      obtain ⟨units, hunits, h⟩ := Option.bind_eq_some_iff.1 h
      obtain ⟨milli, hmilli, h⟩ := Option.bind_eq_some_iff.1 h
      obtain ⟨-, rfl⟩ := hold_eq_some_iff.1 hunits
      obtain ⟨-, rfl⟩ := hold_eq_some_iff.1 hmilli
      rw [exact_binary, ceil_eq_ceilDiv _ (by positivity), Option.some.inj h]

/-- Too large on the way, whatever it amounts to. -/
inductive Overlarge (q : Literal) : Prop where
  /-- The power of ten is too large, and the digits it would multiply are zero. -/
  | zero : q.digits = 0 → q.places = 0 → q.multiplier = .decimal 36 → Overlarge q
  /-- The digits are too large when they are multiplied, before they are divided by the power of
  ten that goes with the point. -/
  | product {exponent : Nat} : q.multiplier = .binary exponent →
      magnitudeBound ≤ q.digits * 2 ^ exponent * 1000 → Overlarge q
  /-- The places are so many that the exponent wraps. -/
  | wrapped : ¬ q.ShiftHeld → Overlarge q

/-- A magnitude that is found is one of those that can be held. -/
theorem magnitude_lt (h : q.Readable) (hmagnitude : q.magnitude = some n) : n < magnitudeBound := by
  obtain ⟨negative, digits, places, multiplier⟩ := q
  cases multiplier with
  | decimal e =>
      rcases Int.lt_or_le (e + 3 - places) (-2 ^ 31) with hheld | hheld
      · rw [magnitude_of_not_held h hheld] at hmagnitude
        cases hmagnitude
      rcases Int.lt_or_le (e + 3 - places) 0 with hshift | hshift
      · rw [magnitude_of_neg h hshift hheld] at hmagnitude
        obtain rfl := Option.some.inj hmagnitude
        exact (ceilDiv_le_self _ (by positivity)).trans_lt h.digits_lt
      · rw [magnitude_of_nonneg h hshift] at hmagnitude
        obtain ⟨power, -, hproduct⟩ := Option.bind_eq_some_iff.1 hmagnitude
        obtain ⟨hlt, rfl⟩ := hold_eq_some_iff.1 hproduct
        exact hlt
  | binary e =>
      rw [magnitude_binary h.places_lt] at hmagnitude
      obtain ⟨units, -, hmagnitude⟩ := Option.bind_eq_some_iff.1 hmagnitude
      obtain ⟨milli, hmilli, hmagnitude⟩ := Option.bind_eq_some_iff.1 hmagnitude
      obtain ⟨hlt, rfl⟩ := hold_eq_some_iff.1 hmilli
      obtain rfl := Option.some.inj hmagnitude
      exact (ceilDiv_le_self _ (by positivity)).trans_lt hlt

theorem magnitude_decimal_eq_none_iff (hq : Readable ⟨negative, digits, places, .decimal e⟩)
    (hheld : -2 ^ 31 ≤ e + 3 - (places : ℤ)) :
    magnitude ⟨negative, digits, places, .decimal e⟩ = none ↔
      0 ≤ e + 3 - places ∧ (magnitudeBound ≤ 10 ^ (e + 3 - places).toNat ∨
        magnitudeBound ≤ digits * 10 ^ (e + 3 - places).toNat) := by
  rcases Int.lt_or_le (e + 3 - places) 0 with hshift | hshift
  · rw [magnitude_of_neg hq hshift hheld]
    simp only [reduceCtorEq, false_iff]
    omega
  · rw [magnitude_of_nonneg hq hshift, Option.bind_eq_none_iff]
    constructor
    · intro h
      refine ⟨hshift, ?_⟩
      by_cases hpower : magnitudeBound ≤ 10 ^ (e + 3 - places).toNat
      · exact .inl hpower
      · exact .inr (hold_eq_none_iff.1 (h _ (hold_eq_some_iff.2 ⟨Nat.lt_of_not_le hpower, rfl⟩)))
    · rintro ⟨-, hlarge⟩ power hpower
      obtain ⟨hheld, rfl⟩ := hold_eq_some_iff.1 hpower
      exact hold_eq_none_iff.2 (hlarge.resolve_left (Nat.not_le.2 hheld))

theorem magnitude_binary_eq_none_iff {e : Nat} (hplaces : places < 2 ^ 31) :
    magnitude ⟨negative, digits, places, .binary e⟩ = none ↔
      magnitudeBound ≤ digits * 2 ^ e * 1000 := by
  rw [magnitude_binary hplaces, Option.bind_eq_none_iff]
  constructor
  · intro h
    by_contra hlt
    have hunits := h _ (hold_eq_some_iff.2 ⟨by omega, rfl⟩)
    rw [hold_eq_some_iff.2 ⟨Nat.lt_of_not_le hlt, rfl⟩] at hunits
    cases hunits
  · intro h units hunits
    obtain ⟨-, rfl⟩ := hold_eq_some_iff.1 hunits
    rw [hold_eq_none_iff.2 h]
    rfl

/-- Digits that can be held come to the bound only when they are multiplied. -/
theorem bound_le_exact_iff (hdigits : digits < magnitudeBound) :
    (magnitudeBound : ℚ) ≤ exact ⟨negative, digits, places, .decimal e⟩ ↔
      0 ≤ e + 3 - places ∧ magnitudeBound ≤ digits * 10 ^ (e + 3 - places).toNat := by
  rcases Int.lt_or_le (e + 3 - places) 0 with hshift | hshift
  · rw [exact_of_neg hshift]
    have hle : (digits : ℚ) / (10 ^ (-(e + 3 - places)).toNat : Nat) ≤ digits :=
      div_le_self (by positivity) (by exact_mod_cast Nat.one_le_pow _ _ (by decide))
    have hlt : (digits : ℚ) < magnitudeBound := by exact_mod_cast hdigits
    exact iff_of_false (not_le.2 (hle.trans_lt hlt)) fun h => absurd h.1 (Int.not_le.2 hshift)
  · rw [exact_of_nonneg hshift, Nat.cast_le]
    exact ⟨fun h => ⟨hshift, h⟩, fun h => h.2⟩

theorem shiftHeld_decimal_iff :
    ShiftHeld ⟨negative, digits, places, .decimal e⟩ ↔ -2 ^ 31 ≤ e + 3 - (places : ℤ) := by
  constructor
  · exact fun h => h e rfl
  · rintro h _ ⟨⟩
    exact h

theorem shiftHeld_binary {e : Nat} : ShiftHeld ⟨negative, digits, places, .binary e⟩ := by
  rintro _ ⟨⟩

theorem overlarge_decimal_iff :
    Overlarge ⟨negative, digits, places, .decimal e⟩ ↔
      (digits = 0 ∧ places = 0 ∧ e = 36) ∨ e + 3 - (places : ℤ) < -2 ^ 31 := by
  constructor
  · intro h
    cases h with
    | zero hdigits hplaces he => exact .inl ⟨hdigits, hplaces, Multiplier.decimal.inj he⟩
    | product he => cases he
    | wrapped h => exact .inr (Int.not_le.1 (mt shiftHeld_decimal_iff.2 h))
  · rintro (⟨hdigits, hplaces, rfl⟩ | h)
    · exact .zero hdigits hplaces rfl
    · exact .wrapped (mt shiftHeld_decimal_iff.1 (Int.not_le.2 h))

theorem overlarge_binary_iff {e : Nat} :
    Overlarge ⟨negative, digits, places, .binary e⟩ ↔ magnitudeBound ≤ digits * 2 ^ e * 1000 := by
  constructor
  · intro h
    cases h with
    | zero _ _ he => cases he
    | product he hbound =>
        cases he
        exact hbound
    | wrapped h => exact absurd shiftHeld_binary h
  · intro hbound
    exact .product rfl hbound

/-- **No magnitude is found** of what is too large, be it on the way only. -/
theorem magnitude_eq_none_iff (h : q.Readable) :
    q.magnitude = none ↔
      ((∃ e, q.multiplier = .decimal e) ∧ (magnitudeBound : ℚ) ≤ q.exact) ∨ q.Overlarge := by
  obtain ⟨negative, digits, places, multiplier⟩ := q
  cases multiplier with
  | binary e => simp [magnitude_binary_eq_none_iff h.places_lt, overlarge_binary_iff]
  | decimal e =>
      have hexponent : e ≤ 36 := (h.decimal_bounds e rfl).2
      rw [overlarge_decimal_iff]
      rcases Int.lt_or_le (e + 3 - places) (-2 ^ 31) with hwrapped | hheld
      · exact iff_of_true (magnitude_of_not_held h hwrapped) (.inr (.inr hwrapped))
      rw [magnitude_decimal_eq_none_iff h hheld, bound_le_exact_iff h.digits_lt, bound_le_power,
        or_iff_left (Int.not_lt.2 hheld)]
      constructor
      · rintro ⟨hshift, hpower | hproduct⟩
        · -- only the greatest exponent makes such a power, and only without a fraction
          have hlast : places = 0 ∧ e = 36 := by omega
          rcases Nat.eq_zero_or_pos digits with hzero | hpos
          · exact .inr ⟨hzero, hlast⟩
          · exact .inl ⟨⟨e, rfl⟩, hshift,
              (bound_le_power.2 hpower).trans (Nat.le_mul_of_pos_left _ hpos)⟩
        · exact .inl ⟨⟨e, rfl⟩, hshift, hproduct⟩
      · rintro (⟨-, hshift, hproduct⟩ | ⟨-, rfl, rfl⟩)
        · exact ⟨hshift, .inr hproduct⟩
        · exact ⟨by omega, .inl (by omega)⟩

/-! ### Outcomes -/

/-- The literal in whole milli-units, with its sign. -/
def amount (q : Literal) : ℤ :=
  (if q.negative then -1 else 1) * ⌈q.exact⌉

theorem exact_le_of_held (h : Milli.Held q.amount) : q.exact ≤ (2 ^ 63 : Nat) := by
  have hceil : ⌈q.exact⌉ ≤ (2 ^ 63 : Nat) := by
    rw [Milli.Held, amount] at h
    split at h <;> omega
  exact_mod_cast Int.ceil_le.1 hceil

theorem not_held_of_bound_le (h : (magnitudeBound : ℚ) ≤ q.exact) : ¬ Milli.Held q.amount := by
  intro hheld
  have hle : magnitudeBound ≤ 2 ^ 63 := by exact_mod_cast h.trans (exact_le_of_held hheld)
  exact absurd hle (by decide)

/-- A product that is too large needs twenty places to come down to what can be held. -/
theorem twenty_le_places {e : Nat}
    (hheld : Milli.Held (amount ⟨negative, digits, places, .binary e⟩))
    (hbound : magnitudeBound ≤ digits * 2 ^ e * 1000) : 20 ≤ places := by
  have hexact := exact_le_of_held hheld
  rw [exact_binary, div_le_iff₀ (by positivity)] at hexact
  have hproduct : digits * 2 ^ e * 1000 ≤ 2 ^ 63 * 10 ^ places := by exact_mod_cast hexact
  by_contra hlt
  have hpower : 10 ^ places ≤ 10 ^ 19 := Nat.pow_le_pow_right (by decide) (by omega)
  have hlarge : 2 ^ 63 * 10 ^ 19 < magnitudeBound := by decide
  exact absurd (hbound.trans (hproduct.trans (Nat.mul_le_mul_left _ hpower))) (Nat.not_le.2 hlarge)

theorem milli_of_some (hq : q.Readable) (h : q.magnitude = some n) :
    q.milli = (Milli.ofInt? q.amount).elim (.error .outOfRange) .ok := by
  have hamount : (if q.negative then -(n : ℤ) else n) = q.amount := by
    rw [amount, ceil_exact hq h]
    split <;> simp
  rw [milli, h]
  simp only [hamount]
  cases Milli.ofInt? q.amount <;> rfl

theorem milli_of_none (h : q.magnitude = none) : q.milli = .error .outOfRange := by
  rw [milli, h]

theorem milli_eq_ok_iff (h : q.Readable) {v : Milli} :
    q.milli = .ok v ↔ v.val = q.amount ∧ ¬ q.Overlarge := by
  cases hmagnitude : q.magnitude with
  | none =>
      rw [milli_of_none hmagnitude]
      refine iff_of_false (by simp) ?_
      rintro ⟨hval, hover⟩
      obtain ⟨-, hbound⟩ := ((magnitude_eq_none_iff h).1 hmagnitude).resolve_right hover
      exact not_held_of_bound_le hbound (hval ▸ Milli.held_val v)
  | some n =>
      have hover : ¬ q.Overlarge := fun hover => by
        have hnone := (magnitude_eq_none_iff h).2 (.inr hover)
        rw [hmagnitude] at hnone
        cases hnone
      rw [milli_of_some h hmagnitude, and_iff_left hover, ← Bounded.ofInt?_eq_some_iff,
        ← Milli.ofInt?]
      cases Milli.ofInt? q.amount <;> simp

theorem error_of_milli {e : Error} (h : q.milli = .error e) : e = .outOfRange := by
  rw [milli] at h
  split at h
  · exact (Except.error.inj h).symm
  · split at h
    · cases h
    · exact (Except.error.inj h).symm

theorem milli_eq_error_iff (h : q.Readable) {e : Error} :
    q.milli = .error e ↔ e = .outOfRange ∧ (¬ Milli.Held q.amount ∨ q.Overlarge) := by
  constructor
  · intro herror
    refine ⟨error_of_milli herror, ?_⟩
    by_contra! hno
    have hok := (milli_eq_ok_iff h (v := ⟨q.amount, hno.1.1, hno.1.2⟩)).2 ⟨rfl, hno.2⟩
    rw [herror] at hok
    cases hok
  · rintro ⟨rfl, hno⟩
    cases hmilli : q.milli with
    | error e => rw [error_of_milli hmilli]
    | ok v =>
        obtain ⟨hval, hover⟩ := (milli_eq_ok_iff h).1 hmilli
        exact absurd (hval ▸ Milli.held_val v) (hno.resolve_right hover)

end Literal

/-! ### Spelled quantities -/

theorem SuffixText.decimal_bounds {suffix : List Char} {m : Multiplier} {e : Int}
    (h : SuffixText suffix m) (he : m = .decimal e) : -36 ≤ e ∧ e ≤ 36 := by
  cases h with
  | symbol hmem =>
      have hall : ∀ entry ∈ symbols, ∀ e, entry.2 = .decimal e → -36 ≤ e ∧ e ≤ 36 := by
        simp [symbols]
      exact hall _ hmem e he
  | @exponent _ _ digits negative _ _ _ _ hle =>
      obtain rfl := Multiplier.decimal.inj he
      rw [signed]
      split <;> omega

theorem SuffixText.binary_le {suffix : List Char} {m : Multiplier} {e : Nat}
    (h : SuffixText suffix m) (he : m = .binary e) : e ≤ 60 := by
  cases h with
  | symbol hmem =>
      have hall : ∀ entry ∈ symbols, ∀ e, entry.2 = .binary e → e ≤ 60 := by
        simp [symbols]
      exact hall _ hmem e he
  | exponent => cases he

theorem Spelling.amount_literal (s : Spelling) : s.literal.amount = s.milli := by
  rw [Literal.amount, Spelling.milli, s.exact_literal]
  rfl

theorem Spells.readable {text : List Char} {s : Spelling} (h : Spells text s)
    (hdigits : s.digits < magnitudeBound) (hplaces : s.fraction.length < 2 ^ 31) :
    s.literal.Readable := by
  obtain ⟨-, -, suffix, -, -, hsuffix, -⟩ := h.exists_parts
  exact ⟨hdigits, fun _ he => hsuffix.decimal_bounds he, fun _ he => hsuffix.binary_le he, hplaces⟩

/-- **A text that spells a quantity** is scaled, unless its digits are too many. -/
theorem milli_of_spells {text : String} {s : Spelling} (h : Spells (Text.trim text.toList) s) :
    milli text =
      if magnitudeBound ≤ s.digits then .error .tooManyDigits else s.literal.milli := by
  rw [milli, Literal.ofString, h.ofChars_eq]
  split <;> rfl

/-- The digits are too many, or the value is out of range. -/
theorem Spells.error_of_milli {text : String} {s : Spelling} {e : Error}
    (h : Spells (Text.trim text.toList) s) (he : milli text = .error e) :
    (magnitudeBound ≤ s.digits ∧ e = .tooManyDigits) ∨
      (s.digits < magnitudeBound ∧ e = .outOfRange) := by
  rw [milli_of_spells h] at he
  split at he
  · next hdigits => exact .inl ⟨hdigits, (Except.error.inj he).symm⟩
  · next hdigits => exact .inr ⟨Nat.lt_of_not_le hdigits, Literal.error_of_milli he⟩

end ScaleMetrics.Quantity
