import ScaleMetrics.Proofs.Numerals
import ScaleMetrics.Proofs.Rounding
import ScaleMetrics.Proofs.Scaling
import ScaleMetrics.Report.Amount

/-!
# Proofs — Amounts

What the text of an amount says, read back as a quantity.  An amount that is written with a decimal
place goes through two numbers of the floating-point format, one for the milli-units and one for the
units (`Shown`), before its tenths are rounded.

* `Shown.near`: up to `2 ^ 45` units, no half of a tenth lies between the amount and the number that
  is rounded to tenths, so the tenths are the nearest (`tenthsOfMilli_near`).
* `tenthsOfMilli_within`: how far the tenths are from the amount in general.
* `milli_amount_eq`: the text of an amount is read back as what it shows (`shown`).
* `milli_amount`: so it is read back as the amount or to the nearest tenth up to a limit, and is out
  of range near the end of the range.
-/

namespace ScaleMetrics.Report

/-! ### Tenths -/

/-- The numbers between the milli-units and the tenths that are shown. -/
structure Shown (milli : Nat) (whole units : ℚ) : Prop where
  nearest_whole : Nearest milli whole
  nearest_units : Nearest (whole / 1000) units
  halfEven_tenths : HalfEven (10 * units) (tenthsOfMilli milli)

section Tenths

variable {milli : Nat} {whole units : ℚ}

theorem exists_shown (h : milli < 2 ^ 63) : ∃ whole units, Shown milli whole units := by
  have hmilli : (milli : ℚ) ≤ 2 ^ (63 : ℤ) := by exact_mod_cast h.le
  have hfar {k : ℤ} (hk : k < 1023) : (2 : ℚ) ^ k < 2 ^ (1023 : ℤ) :=
    zpow_lt_zpow_right₀ one_lt_two hk
  obtain ⟨x, hx, hwhole⟩ := Binary64.exists_ofNat? (hmilli.trans_lt (hfar (by decide)))
  have hfew : ((1000 : Nat) : ℚ) < 2 ^ (10 : ℤ) := by norm_num
  obtain ⟨y, hy, hy1000⟩ := Binary64.exists_ofNat? (hfew.trans (hfar (by decide)))
  -- a thousand is a number of the format
  have hthousand : y.magnitude = 1000 := by
    rw [Nat.cast_ofNat] at hy1000
    exact hy1000.eq_of_multiple (j := 1000) (i := 0) (by norm_num) fun e he =>
      (he.le_sub_of_lt (by decide) hfew).trans (by decide)
  have hbound : x.magnitude / y.magnitude ≤ 2 ^ (64 : ℤ) := by
    have herror := (abs_le.1 (hwhole.abs_sub_le (by decide) hmilli)).2
    norm_num at herror
    rw [zpow_ofNat] at hmilli
    rw [hthousand, zpow_ofNat]
    linarith
  obtain ⟨z, hz, hunits⟩ := Binary64.exists_div? (by rw [hthousand]; norm_num)
    (hbound.trans_lt (hfar (by decide)))
  obtain ⟨hzpos, hzratio⟩ := Binary64.ratio_eq z
  rw [hthousand] at hunits
  refine ⟨x.magnitude, z.magnitude, hwhole, hunits, ?_⟩
  have hfound : (do (← Binary64.ofNat? milli).div? (← Binary64.ofNat? 1000)) = some z := by
    rw [hx, hy]
    exact hz
  rw [tenthsOfMilli, hfound, ← hzratio, mul_div_assoc']
  exact_mod_cast halfEven_roundHalfEven (10 * z.ratio.1) hzpos

/-- **The tenths keep the order.** -/
theorem tenthsOfMilli_mono {m n : Nat} (hn : n < 2 ^ 63) (h : m ≤ n) :
    tenthsOfMilli m ≤ tenthsOfMilli n := by
  obtain ⟨v, x, hm⟩ := exists_shown (h.trans_lt hn)
  obtain ⟨w, y, hn⟩ := exists_shown hn
  have hwhole : v ≤ w := hm.nearest_whole.mono hn.nearest_whole (by exact_mod_cast h)
  have hunits : x ≤ y := hm.nearest_units.mono hn.nearest_units (by linarith)
  exact hm.halfEven_tenths.mono hn.halfEven_tenths (by linarith)

/-- **How far the tenths are from the amount**: half of a tenth, and what the two numbers are
off. -/
theorem tenthsOfMilli_within (hpos : 0 < milli) (h : milli < 2 ^ 63) :
    |(100 * tenthsOfMilli milli - milli : ℚ)| ≤ 50 + milli / 2 ^ 52 := by
  obtain ⟨whole, units, hshown⟩ := exists_shown h
  have hleast : (2 : ℚ) ^ 52 * 2 ^ Binary64.minExponent ≤ 1 / 2000 := by
    calc (2 : ℚ) ^ 52 * 2 ^ Binary64.minExponent = 2 ^ (52 + Binary64.minExponent) := by
          rw [zpow_add₀ two_ne_zero]
          norm_cast
      _ ≤ 2 ^ (-11 : ℤ) := zpow_le_zpow_right₀ one_le_two (by decide)
      _ ≤ 1 / 2000 := by norm_num
  have hone : (1 : ℚ) ≤ milli := by exact_mod_cast hpos
  have hwhole := hshown.nearest_whole.relative (by linarith)
  have hwholeabs := abs_le.1 (le_refl |whole - milli|)
  have hunits := hshown.nearest_units.relative (by linarith)
  have hunitsabs := abs_le.1 (le_refl |units - whole / 1000|)
  have htenths := hshown.halfEven_tenths.bounds
  rw [abs_le]
  constructor <;> linarith

/-- How far the number of units is from a whole number of milli-units. -/
theorem abs_units_sub_le {w : Nat} (h : Nearest (w / 1000) units) {k : ℤ}
    (hk : Binary64.minExponent + 53 ≤ k) (hw : (w : ℚ) ≤ 2 ^ k * 1000) :
    |1000 * units - w| ≤ 1000 * 2 ^ (k - 54) := by
  have hscaled : 1000 * units - w = 1000 * (units - w / 1000) := by ring
  rw [hscaled, abs_mul, abs_of_pos (by norm_num)]
  gcongr
  exact h.abs_sub_le hk (by rwa [div_le_iff₀ (by norm_num)])

/-- Amounts of up to `2 ^ 53` are numbers of the format. -/
theorem whole_of_small (h : Nearest milli whole) (hsmall : milli < 2 ^ 53) : whole = milli := by
  have hlt : (milli : ℚ) < 2 ^ (53 : ℤ) := by exact_mod_cast hsmall
  exact h.eq_of_multiple (j := milli) (i := 0) (by simp) fun e he =>
    he.le_sub_of_lt (by decide) hlt

/-- Greater amounts are rounded to multiples of two or of four.  A half of a tenth is twice an odd
number, and what is next to it is rounded away from it. -/
theorem exists_whole_of_large (h : Nearest milli whole) (hlarge : 2 ^ 53 ≤ milli)
    (hmilli : milli ≤ 2 ^ 45 * 1000) :
    ∃ w : Nat, whole = w ∧ w ≤ 2 ^ 45 * 1000 ∧
      ∀ j, (milli < 4 * j + 2 → w ≤ 4 * j) ∧ (4 * j + 2 < milli → 4 * j + 4 ≤ w) := by
  obtain ⟨e, m, he, hm, rfl⟩ := h
  have hlow : (2 ^ 53 : ℚ) ≤ milli := by exact_mod_cast hlarge
  have hhigh : (milli : ℚ) < 2 ^ (55 : ℤ) := by
    have : milli < 2 ^ 55 := by omega
    exact_mod_cast this
  have hle : e ≤ 2 := he.le_sub_of_lt (by decide) hhigh
  have hge : 1 ≤ e := by
    by_contra hlt
    have hpow : (2 : ℚ) ^ e ≤ 1 := zpow_le_one_of_nonpos₀ one_le_two (by omega)
    linarith [he.lt]
  obtain rfl | rfl : e = 1 ∨ e = 2 := by omega
  · have hhalf := (halfEven_div_iff (d := 2) Nat.two_pos).1 (by exact_mod_cast hm)
    rw [Nat.even_iff] at hhalf
    exact ⟨m * 2, by push_cast; norm_num, by omega, fun j => by omega⟩
  · have hhalf := (halfEven_div_iff (d := 4) (by decide)).1 (by
      norm_num at hm ⊢
      exact hm)
    exact ⟨m * 4, by push_cast; norm_num, by omega, fun j => by omega⟩

/-- **No half of a tenth lies between** an amount of up to `2 ^ 45` units and the number that is
rounded to tenths. -/
theorem Shown.near (h : Shown milli whole units) (hmilli : milli ≤ 2 ^ 45 * 1000) :
    ∃ w gap : Nat, |1000 * units - w| < gap ∧
      ∀ j, (milli < 4 * j + 2 → w + gap ≤ 4 * j + 2) ∧
        (4 * j + 2 < milli → 4 * j + 2 + gap ≤ w) := by
  have hunits := h.nearest_units
  rcases Nat.lt_or_ge milli (2 ^ 53) with hsmall | hlarge
  · rw [whole_of_small h.nearest_whole hsmall] at hunits
    have hle : (milli : ℚ) ≤ 2 ^ (44 : ℤ) * 1000 := by
      have : milli ≤ 2 ^ 44 * 1000 := by omega
      exact_mod_cast this
    have herror := abs_units_sub_le hunits (by decide) hle
    exact ⟨milli, 1, herror.trans_lt (by norm_num), fun j => by omega⟩
  · obtain ⟨w, rfl, hw, hhalves⟩ := exists_whole_of_large h.nearest_whole hlarge hmilli
    have hle : (w : ℚ) ≤ 2 ^ (45 : ℤ) * 1000 := by exact_mod_cast hw
    have herror := abs_units_sub_le hunits (by decide) hle
    refine ⟨w, 2, herror.trans_lt (by norm_num), fun j => ?_⟩
    have := hhalves j
    omega

/-- The tenths of such an amount are the nearest. -/
theorem tenthsOfMilli_near (hmilli : milli ≤ 2 ^ 45 * 1000) :
    milli ≤ 100 * tenthsOfMilli milli + 50 ∧ 100 * tenthsOfMilli milli ≤ milli + 50 := by
  obtain ⟨whole, units, h⟩ := exists_shown (by omega : milli < 2 ^ 63)
  obtain ⟨w, gap, hnear, hhalves⟩ := h.near hmilli
  obtain ⟨hlow, hhigh⟩ := abs_lt.1 hnear
  constructor
  · by_contra! hlt
    -- the amount is above the half behind its tenths
    have hw := (hhalves (25 * tenthsOfMilli milli + 12)).2 (by omega)
    have hwcast : (4 * (25 * tenthsOfMilli milli + 12) + 2 + gap : ℚ) ≤ w := by exact_mod_cast hw
    linarith [h.halfEven_tenths.bounds.2]
  · by_contra! hlt
    obtain ⟨k, hk⟩ : ∃ k, tenthsOfMilli milli = k + 1 := Nat.exists_eq_add_one.2 (by omega)
    have hw := (hhalves (25 * k + 12)).1 (by omega)
    have hwcast : (w + gap : ℚ) ≤ 4 * (25 * k + 12) + 2 := by exact_mod_cast hw
    have htenths := h.halfEven_tenths.bounds.1
    rw [hk] at htenths
    push_cast at htenths
    linarith

/-- The greatest amount up to which the tenths are the nearest. -/
def nearestLimit : Nat := 35184372088832150

/-- **The tenths are the nearest** up to the limit. -/
theorem tenthsOfMilli_nearest (hmilli : milli ≤ nearestLimit) :
    milli ≤ 100 * tenthsOfMilli milli + 50 ∧ 100 * tenthsOfMilli milli ≤ milli + 50 := by
  rw [nearestLimit] at hmilli
  rcases Nat.le_total milli (2 ^ 45 * 1000) with hle | hge
  · exact tenthsOfMilli_near hle
  · -- two tenths are left
    have hfirst : tenthsOfMilli (2 ^ 45 * 1000) = 351843720888320 := by decide +kernel
    have hlast : tenthsOfMilli (2 ^ 45 * 1000 + 50) = 351843720888320 := by decide +kernel
    have hfirst' : tenthsOfMilli (2 ^ 45 * 1000 + 51) = 351843720888321 := by decide +kernel
    have hlast' : tenthsOfMilli (2 ^ 45 * 1000 + 150) = 351843720888321 := by decide +kernel
    rcases Nat.lt_or_ge milli (2 ^ 45 * 1000 + 51) with hlt | hgt
    · have := tenthsOfMilli_mono (by omega) hge
      have := tenthsOfMilli_mono (by omega) (Nat.le_of_lt_succ hlt)
      omega
    · have := tenthsOfMilli_mono (m := 2 ^ 45 * 1000 + 51) (by omega) hgt
      have := tenthsOfMilli_mono (n := 2 ^ 45 * 1000 + 150) (by omega) (show milli ≤ _ by omega)
      omega

/-- Tenths of the greatest amounts are more than can be held. -/
theorem tenthsOfMilli_held_iff (h : milli < 2 ^ 63) :
    100 * tenthsOfMilli milli < 2 ^ 63 ↔ milli < 2 ^ 63 - 512 := by
  constructor
  · intro hheld
    by_contra! hle
    have hfirst : tenthsOfMilli (2 ^ 63 - 512) = 92233720368547760 := by decide +kernel
    have := tenthsOfMilli_mono h hle
    omega
  · intro hlt
    have hlast : tenthsOfMilli (2 ^ 63 - 513) = 92233720368547740 := by decide +kernel
    have := tenthsOfMilli_mono (n := 2 ^ 63 - 513) (by decide) (by omega : milli ≤ _)
    omega

end Tenths

/-! ### Texts of amounts -/

open Digits (allDigits_toDigits minus signText_minus signed_natAbs)
open Quantity

/-- A decimal quantity of few digits and places is scaled without rounding. -/
theorem milli_of_decimal {text : String} {s : Spelling} {e : ℤ} {n k : Nat}
    (h : Spells text.toList s) (he : s.multiplier = .decimal e)
    (hshift : e + 3 - s.fraction.length = k) (hk : k ≤ 3) (hdigits : s.digits = n)
    (hn : n < 2 ^ 64) :
    Quantity.milli text =
      (Milli.ofInt? (signed s.negative (n * 10 ^ k))).elim (.error .outOfRange) .ok := by
  have hpower : 10 ^ k ≤ 10 ^ 3 := Nat.pow_le_pow_right (by decide) hk
  have hbound : magnitudeBound = 2 ^ 127 := rfl
  have hproduct : n * 10 ^ k < magnitudeBound := by
    have := Nat.mul_le_mul hn.le hpower
    omega
  obtain ⟨-, -, suffix, -, -, hsuffix, -⟩ := h.exists_parts
  have hexponent := hsuffix.decimal_bounds he
  have hreadable := h.readable (by omega) (by omega)
  have hmagnitude : s.literal.magnitude = some (n * 10 ^ k) := by
    rw [Spelling.literal, he, hdigits] at hreadable ⊢
    rw [Literal.magnitude_of_nonneg hreadable (by omega), hshift, Int.toNat_natCast,
      hold_eq_some_iff.2 ⟨by omega, rfl⟩]
    exact hold_eq_some_iff.2 ⟨hproduct, rfl⟩
  rw [milli_of_spells (by rwa [h.trim_eq_self]), if_neg (by omega),
    Literal.milli_of_some hreadable hmagnitude, Literal.amount,
    Literal.ceil_exact hreadable hmagnitude]
  congr 2
  cases hnegative : s.negative <;> simp [Spelling.literal, signed, hnegative]

/-- What the text of an amount spells. -/
def spelling (milli : ℤ) : Spelling :=
  if milli % 1000 = 0 then
    ⟨decide (milli < 0), Nat.toDigits 10 (milli / 1000).natAbs, [], .decimal 0⟩
  else if 1000 ≤ milli.natAbs then
    ⟨decide (milli < 0), Nat.toDigits 10 (tenthsOfMilli milli.natAbs / 10),
      Nat.toDigits 10 (tenthsOfMilli milli.natAbs % 10), .decimal 0⟩
  else ⟨decide (milli < 0), Nat.toDigits 10 milli.natAbs, [], .decimal (-3)⟩

theorem suffixText_nil : SuffixText [] (.decimal 0) :=
  .symbol (by decide)

/-- A numeral with a suffix, as it is spelled. -/
theorem spells_numeral {n : ℤ} {suffix : List Char} {m : Multiplier}
    (h : SuffixText suffix m) :
    Spells ((toString n).toList ++ suffix)
      ⟨decide (n < 0), Nat.toDigits 10 n.natAbs, [], m⟩ := by
  rw [Digits.toList_toString, List.append_assoc]
  exact .mk (signText_minus n) (.whole Nat.toDigits_ne_nil (allDigits_toDigits _)) h

/-- A numeral with a point. -/
theorem spells_pointed (n : ℤ) (whole fraction : Nat) :
    Spells (minus n ++ (Nat.toDigits 10 whole ++ '.' :: Nat.toDigits 10 fraction))
      ⟨decide (n < 0), Nat.toDigits 10 whole, Nat.toDigits 10 fraction, .decimal 0⟩ := by
  have hnumber : NumberText (Nat.toDigits 10 whole ++ '.' :: Nat.toDigits 10 fraction)
      (Nat.toDigits 10 whole) (Nat.toDigits 10 fraction) :=
    .pointed (List.append_ne_nil_of_left_ne_nil Nat.toDigits_ne_nil _) fun c hmem =>
      (List.mem_append.1 hmem).elim (allDigits_toDigits _ c) (allDigits_toDigits _ c)
  have h := Spells.mk (signText_minus n) hnumber suffixText_nil
  rwa [List.append_nil] at h

theorem spells_amount {milli : ℤ} (h : milli.natAbs < 2 ^ 63) :
    Spells (amount milli).toList (spelling milli) := by
  have hheld : 1000 ≤ low64 milli.natAbs ↔ 1000 ≤ milli.natAbs := by
    rw [low64_of_held (by omega)]
    omega
  rw [amount, spelling]
  simp only [hheld]
  split
  · next hwhole =>
    have hsign : decide (milli < 0) = decide (milli / 1000 < 0) := by
      rw [decide_eq_decide]
      omega
    have h := spells_numeral (n := milli / 1000) suffixText_nil
    rwa [List.append_nil, ← hsign] at h
  · split
    · have htext : (if milli < 0 then "-" else "").toList = minus milli := by
        rw [minus, apply_ite String.toList]
        rfl
      rw [String.toList_append, String.toList_append, String.toList_append, htext,
        Digits.toList_toString_nat, Digits.toList_toString_nat, List.append_assoc,
        List.append_assoc]
      exact spells_pointed milli _ _
    · rw [String.toList_append]
      exact spells_numeral (.symbol (by decide))

/-- The amount that a text shows. -/
def shown (milli : ℤ) : ℤ :=
  if milli % 1000 = 0 ∨ milli.natAbs < 1000 then milli
  else signed (decide (milli < 0)) (100 * tenthsOfMilli milli.natAbs)

theorem digits_numeral {negative : Bool} {n : Nat} {m : Multiplier} :
    Spelling.digits ⟨negative, Nat.toDigits 10 n, [], m⟩ = n := by
  rw [Spelling.digits, List.append_nil, Instant.value_toDigits]

theorem length_place (n : Nat) : (Nat.toDigits 10 (n % 10)).length = 1 := by
  rw [Nat.toDigits_of_lt_base (Nat.mod_lt n (by decide))]
  rfl

theorem digits_pointed {negative : Bool} {n : Nat} {m : Multiplier} :
    Spelling.digits ⟨negative, Nat.toDigits 10 (n / 10), Nat.toDigits 10 (n % 10), m⟩ = n := by
  rw [Spelling.digits, Digits.value_append, length_place, Instant.value_toDigits,
    Instant.value_toDigits, Nat.pow_eq, pow_one, Nat.div_add_mod']

/-- **The text of an amount** is read as the amount it shows, if that can be held. -/
theorem milli_amount_eq {milli : ℤ} (h : milli.natAbs < 2 ^ 63) :
    Quantity.milli (amount milli) =
      (Milli.ofInt? (shown milli)).elim (.error .outOfRange) .ok := by
  have hspells := spells_amount h
  have hshown := signed_natAbs milli
  rw [spelling] at hspells
  rw [shown]
  split at hspells
  · next hwhole =>
    have hunits : (milli / 1000).natAbs * 10 ^ 3 = milli.natAbs := by omega
    rw [milli_of_decimal hspells rfl (k := 3) rfl le_rfl digits_numeral (by omega), hunits,
      hshown, if_pos (.inl hwhole)]
  · next hwhole =>
    split at hspells
    · next hlarge =>
      have hlast : tenthsOfMilli (2 ^ 63 - 1) = 92233720368547760 := by decide +kernel
      have hle := tenthsOfMilli_mono (n := 2 ^ 63 - 1) (by decide) (Nat.le_sub_one_of_lt h)
      rw [milli_of_decimal hspells rfl (k := 2) (by rw [length_place]; rfl) (by decide)
        digits_pointed (by omega), if_neg (by omega), mul_comm]
      rfl
    · next hsmall =>
      rw [milli_of_decimal hspells rfl (k := 0) rfl (by decide) digits_numeral (by omega),
        pow_zero, mul_one, hshown, if_pos (.inr (Nat.lt_of_not_le hsmall))]

theorem abs_shown_sub {milli : ℤ} (h : ¬ (milli % 1000 = 0 ∨ milli.natAbs < 1000)) :
    |shown milli - milli| = |(100 * tenthsOfMilli milli.natAbs - milli.natAbs : ℤ)| := by
  rw [shown, if_neg h, signed]
  split
  · next hsign =>
    have := of_decide_eq_true hsign
    rw [← abs_neg]
    congr 1
    omega
  · next hsign =>
    have := of_decide_eq_false (Bool.eq_false_iff.2 hsign)
    congr 1
    omega

theorem held_shown_iff {milli : ℤ} (h : milli.natAbs < 2 ^ 63) :
    Milli.Held (shown milli) ↔ milli.natAbs < 2 ^ 63 - 512 := by
  rw [Milli.Held, shown]
  split
  · omega
  · have htenths := tenthsOfMilli_held_iff h
    rw [signed]
    split <;> omega

/-- How far off the amount is that a text shows. -/
theorem shown_within {milli : ℤ} (h : milli.natAbs < 2 ^ 63) :
    (milli.natAbs ≤ nearestLimit → |shown milli - milli| ≤ 50) ∧
      |(shown milli - milli : ℚ)| ≤ 50 + milli.natAbs / 2 ^ 52 := by
  by_cases hexact : milli % 1000 = 0 ∨ milli.natAbs < 1000
  · rw [shown, if_pos hexact, Int.sub_self, sub_self, abs_zero, abs_zero]
    exact ⟨fun _ => by decide, by positivity⟩
  · have hwithin := tenthsOfMilli_within (by omega) h
    rw [← Int.cast_sub, ← Int.cast_abs, abs_shown_sub hexact]
    refine ⟨fun hlimit => ?_, ?_⟩
    · have hnearest := tenthsOfMilli_nearest hlimit
      rw [abs_le]
      omega
    · exact_mod_cast hwithin

/-- **The text of an amount is read back.**  Whole units and less than a unit are read back as the
amount.  Any other amount is read back to the nearest tenth of a unit up to a limit of about
`2 ^ 45` units, and beyond it may be off by `2 ^ -52` of it more.  The greatest amounts are shown
out of range. -/
theorem milli_amount {milli : ℤ} (h : |milli| < 2 ^ 63) :
    (|milli| < 2 ^ 63 - 512 → ∃ w : Milli, Quantity.milli (amount milli) = .ok w ∧
      (1000 ∣ milli ∨ |milli| < 1000 → w.val = milli) ∧
      (|milli| ≤ nearestLimit → |w.val - milli| ≤ 50) ∧
      |(w.val - milli : ℚ)| ≤ 50 + |(milli : ℚ)| / 2 ^ 52) ∧
    (2 ^ 63 - 512 ≤ |milli| → Quantity.milli (amount milli) = .error .outOfRange) := by
  have habs : |milli| = milli.natAbs := Int.abs_eq_natAbs milli
  have habsQ : |(milli : ℚ)| = milli.natAbs := by rw [← Int.cast_abs, habs, Int.cast_natCast]
  rw [habs] at h
  rw [habsQ, habs]
  have hlt : milli.natAbs < 2 ^ 63 := by omega
  have hheld := held_shown_iff hlt
  rw [milli_amount_eq hlt]
  constructor
  · intro hbelow
    obtain ⟨w, hw⟩ := Milli.exists_val_of_held (hheld.2 (by omega))
    obtain ⟨hnear, hwithin⟩ := shown_within hlt
    rw [← hw] at hnear hwithin
    refine ⟨w, by rw [Milli.ofInt?, Bounded.ofInt?_eq_some_iff.2 hw]; rfl, fun hexact => ?_,
      fun hlimit => hnear (by omega), hwithin⟩
    rw [hw, shown, if_pos (by omega)]
  · intro habove
    have hnone : Milli.ofInt? (shown milli) = none := by
      rw [Milli.ofInt?, Bounded.ofInt?_eq_none_iff]
      have hout := mt hheld.1 (by omega)
      rw [Milli.Held] at hout
      omega
    rw [hnone]
    rfl

/-- The law at an amount that is rounded. -/
theorem milli_amount_rounded :
    |(-1550 : ℤ)| < 2 ^ 63 ∧ |(-1550 : ℤ)| < 2 ^ 63 - 512 ∧ |(-1550 : ℤ)| ≤ nearestLimit ∧
    amount (-1550) = "-1.6" ∧
    ∃ w : Milli, Quantity.milli "-1.6" = .ok w ∧ |w.val - -1550| ≤ 50 := by
  have htext : amount (-1550) = "-1.6" := by decide +kernel
  have hlimit : |(-1550 : ℤ)| ≤ nearestLimit := by decide +kernel
  have hheld : |(-1550 : ℤ)| < 2 ^ 63 := by decide
  obtain ⟨w, hw, -, hnear, -⟩ := (milli_amount hheld).1 (by decide)
  rw [htext] at hw
  exact ⟨hheld, by decide, hlimit, htext, w, hw, hnear hlimit⟩

/-- **Beyond the limit** an amount is not read back to the nearest tenth, and the greatest amount is
not read back at all. -/
theorem amount_misread :
    amount 35184372088832151 = "35184372088832.1" ∧
    (∃ w : Milli, Quantity.milli "35184372088832.1" = .ok w ∧ ¬ |w.val - 35184372088832151| ≤ 50) ∧
    amount 9223372036854775807 = "9223372036854776.0" ∧
    Quantity.milli "9223372036854776.0" = .error .outOfRange := by
  refine ⟨by decide +kernel, ⟨⟨35184372088832100, by decide, by decide⟩, ?_, by decide⟩,
    by decide +kernel, ?_⟩
  · rfl
  · rfl

end ScaleMetrics.Report
