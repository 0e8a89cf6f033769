import ScaleMetrics.Binary64
import Mathlib

/-!
# Proofs — Rounding

Which number of the floating-point format a ratio is rounded to.  A ratio that is positive has one
unit, the power of two of which it holds 53 binary digits (`UnitOf`); it is rounded to the nearest
multiple of its unit, a half to the even one (`HalfEven`, `Nearest`).

* `Binary64.nearest_of_ofRatio?`: so numbers are found, and they are found up to the largest
  (`Binary64.exists_ofRatio?`).
* `Nearest.mono`: rounding keeps the order.
* `Nearest.abs_sub_le`, `Nearest.relative`: how far the number is from the ratio, by a power of two
  above the ratio and by the ratio itself.
-/

namespace ScaleMetrics

/-! ### To the nearest integer -/

/-- The integer is nearest to the ratio, and is even if another one is as near. -/
structure HalfEven (ratio : ℚ) (m : Nat) : Prop where
  near : |m - ratio| ≤ 1 / 2
  even : |m - ratio| = 1 / 2 → Even m

/-- Nearness in integers. -/
theorem halfEven_div_iff {n d m : Nat} (hd : 0 < d) :
    HalfEven (n / d) m ↔ (2 * n ≤ 2 * (m * d) + d ∧ 2 * (m * d) ≤ 2 * n + d) ∧
      (2 * n = 2 * (m * d) + d ∨ 2 * (m * d) = 2 * n + d → Even m) := by
  have hpos : (0 : ℚ) < d := by exact_mod_cast hd
  have hscaled : (m - n / d : ℚ) * (2 * d) = (2 * (m * d) - 2 * n : ℤ) := by
    push_cast
    field_simp
  have hdistance : |(m - n / d : ℚ)| * (2 * d) = |(2 * (m * d) - 2 * n : ℤ)| := by
    rw [← abs_of_pos (by positivity : (0 : ℚ) < 2 * d), ← abs_mul, hscaled, Int.cast_abs]
  have hhalf : (1 / 2 : ℚ) * (2 * d) = (d : ℤ) := by
    push_cast
    ring
  have hle : |(m - n / d : ℚ)| ≤ 1 / 2 ↔ |(2 * (m * d) - 2 * n : ℤ)| ≤ d := by
    rw [← mul_le_mul_iff_left₀ (by positivity : (0 : ℚ) < 2 * d), hdistance, hhalf, Int.cast_le]
  have heq : |(m - n / d : ℚ)| = 1 / 2 ↔ |(2 * (m * d) - 2 * n : ℤ)| = d := by
    rw [← mul_left_inj' (by positivity : (2 * d : ℚ) ≠ 0), hdistance, hhalf, Int.cast_inj]
  have hnear : |(2 * (m * d) - 2 * n : ℤ)| ≤ d ↔
      2 * n ≤ 2 * (m * d) + d ∧ 2 * (m * d) ≤ 2 * n + d := by
    rw [abs_le]
    omega
  have htie : |(2 * (m * d) - 2 * n : ℤ)| = d ↔
      2 * n = 2 * (m * d) + d ∨ 2 * (m * d) = 2 * n + d := by
    rw [abs_eq (Int.natCast_nonneg d)]
    omega
  rw [← hnear, ← hle, ← htie, ← heq]
  exact ⟨fun h => ⟨h.near, h.even⟩, fun h => ⟨h.1, h.2⟩⟩

theorem halfEven_roundHalfEven (n : Nat) {d : Nat} (hd : 0 < d) :
    HalfEven (n / d) (roundHalfEven n d) := by
  have hsplit := Nat.mod_add_div n d
  have hrest := Nat.mod_lt n hd
  have hraised := Nat.add_one_mul (n / d) d
  rw [mul_comm d] at hsplit
  -- what is left decides, and a half leaves it to the parity of the quotient
  rw [halfEven_div_iff hd, roundHalfEven, Nat.even_iff]
  split
  · omega
  · split
    · omega
    · rcases Nat.mod_two_eq_zero_or_one (n / d) with hparity | hparity
      · rw [hparity, Nat.add_zero]
        omega
      · rw [hparity]
        omega

namespace HalfEven

variable {r s : ℚ} {m k : Nat}

theorem bounds (h : HalfEven r m) : m - 1 / 2 ≤ r ∧ r ≤ m + 1 / 2 := by
  obtain ⟨hlow, hhigh⟩ := abs_le.1 h.near
  constructor <;> linarith

theorem le_of_lt (h : HalfEven r m) (hr : r < k + 1 / 2) : m ≤ k := by
  have hlt : (m : ℚ) < k + 1 := by linarith [h.bounds.1]
  exact_mod_cast Nat.lt_succ_iff.1 (by exact_mod_cast hlt)

theorem le_of_gt (h : HalfEven r m) (hr : k - 1 / 2 < r) : k ≤ m := by
  have hlt : (k : ℚ) < m + 1 := by linarith [h.bounds.2]
  exact_mod_cast Nat.lt_succ_iff.1 (by exact_mod_cast hlt)

/-- Integers are kept. -/
theorem eq_of_natCast (h : HalfEven (k : ℚ) m) : m = k :=
  Nat.le_antisymm (h.le_of_lt (by linarith)) (h.le_of_gt (by linarith))

/-- **Rounding keeps the order.** -/
theorem mono (hr : HalfEven r m) (hs : HalfEven s k) (h : r ≤ s) : m ≤ k := by
  by_contra! hlt
  have hstep : (k : ℚ) + 1 ≤ m := by exact_mod_cast hlt
  have hlow := hr.bounds.1
  have hhigh := hs.bounds.2
  -- both ratios are the half between the two integers, of which one is odd
  have hm : Even m := hr.even (by rw [abs_of_nonneg] <;> linarith)
  have hk : Even k := hs.even (by rw [abs_of_nonpos] <;> linarith)
  have hsucc : m = k + 1 := by
    have hle : (m : ℚ) ≤ k + 1 := by linarith
    exact le_antisymm (by exact_mod_cast hle) hlt
  rw [hsucc, Nat.even_add_one] at hm
  exact hm hk

end HalfEven

/-! ### To the nearest number -/

/-- Every number of the format is a multiple of a power of two from this one on; of its unit, the
ratio holds 53 binary digits, or fewer if there is no smaller unit. -/
structure UnitOf (r : ℚ) (e : ℤ) : Prop where
  min_le : Binary64.minExponent ≤ e
  lt : r < 2 ^ 53 * 2 ^ e
  le : e = Binary64.minExponent ∨ 2 ^ 52 * 2 ^ e ≤ r

/-- The number is the multiple of the unit of the ratio that is nearest to it. -/
def Nearest (r x : ℚ) : Prop :=
  ∃ (e : ℤ) (m : Nat), UnitOf r e ∧ HalfEven (r / 2 ^ e) m ∧ x = m * 2 ^ e

namespace UnitOf

variable {r s : ℚ} {d e : ℤ}

theorem div_lt (h : UnitOf r e) : r / 2 ^ e < (2 ^ 53 : Nat) := by
  rw [div_lt_iff₀ (by positivity)]
  exact_mod_cast h.lt

theorem le_div (h : UnitOf r e) (he : e ≠ Binary64.minExponent) : (2 ^ 52 : Nat) ≤ r / 2 ^ e := by
  rw [le_div_iff₀ (by positivity)]
  exact_mod_cast h.le.resolve_left he

theorem le_sub_of_le (h : UnitOf r e) {k : ℤ} (hk : Binary64.minExponent + 52 ≤ k)
    (hr : r ≤ 2 ^ k) : e ≤ k - 52 := by
  rcases h.le with rfl | hle
  · omega
  · have hpow : (2 : ℚ) ^ (52 + e) ≤ 2 ^ k := by
      rw [zpow_add₀ two_ne_zero]
      exact_mod_cast hle.trans hr
    have := (zpow_le_zpow_iff_right₀ one_lt_two).1 hpow
    omega

theorem le_sub_of_lt (h : UnitOf r e) {k : ℤ} (hk : Binary64.minExponent + 53 ≤ k)
    (hr : r < 2 ^ k) : e ≤ k - 53 := by
  rcases h.le with rfl | hle
  · omega
  · have hpow : (2 : ℚ) ^ (52 + e) < 2 ^ k := by
      rw [zpow_add₀ two_ne_zero]
      exact_mod_cast hle.trans_lt hr
    have := (zpow_lt_zpow_iff_right₀ one_lt_two).1 hpow
    omega

/-- A greater ratio has no smaller unit. -/
theorem mono (hr : UnitOf r d) (hs : UnitOf s e) (h : r ≤ s) : d ≤ e := by
  have hlt : r < 2 ^ (53 + e) := by
    rw [zpow_add₀ two_ne_zero]
    exact_mod_cast h.trans_lt hs.lt
  have hmin := hs.min_le
  have := hr.le_sub_of_lt (by omega) hlt
  omega

end UnitOf

namespace Nearest

variable {r s x y : ℚ}

/-- **Rounding keeps the order.** -/
theorem mono (hr : Nearest r x) (hs : Nearest s y) (h : r ≤ s) : x ≤ y := by
  obtain ⟨d, m, hd, hm, rfl⟩ := hr
  obtain ⟨e, k, he, hk, rfl⟩ := hs
  rcases (hd.mono he h).eq_or_lt with rfl | hlt
  · have hle : m ≤ k := hm.mono hk (by gcongr)
    gcongr
  · -- the units differ, and a power of two lies between the numbers
    have hmle : m ≤ 2 ^ 53 := hm.le_of_lt (by linarith [hd.div_lt])
    have hlek : 2 ^ 52 ≤ k := by
      have hmin : e ≠ Binary64.minExponent := by
        have := hd.min_le
        omega
      exact hk.le_of_gt (by linarith [he.le_div hmin])
    calc (m : ℚ) * 2 ^ d ≤ 2 ^ 53 * 2 ^ d := by
          gcongr
          exact_mod_cast hmle
      _ = 2 ^ (53 + d) := by
          rw [zpow_add₀ two_ne_zero]
          norm_cast
      _ ≤ 2 ^ (52 + e) := zpow_le_zpow_right₀ one_le_two (by omega)
      _ = 2 ^ 52 * 2 ^ e := by
          rw [zpow_add₀ two_ne_zero]
          norm_cast
      _ ≤ k * 2 ^ e := by
          gcongr
          exact_mod_cast hlek

/-- A multiple of its unit is kept. -/
theorem eq_of_multiple (h : Nearest r x) {j : Nat} {i : ℤ} (hr : r = j * 2 ^ i)
    (hi : ∀ e, UnitOf r e → e ≤ i) : x = r := by
  obtain ⟨e, m, he, hm, rfl⟩ := h
  obtain ⟨n, hn⟩ := Int.eq_ofNat_of_zero_le (Int.sub_nonneg_of_le (hi e he))
  have hunits : r / 2 ^ e = (j * 2 ^ n : Nat) := by
    rw [hr, mul_div_assoc, ← zpow_sub₀ two_ne_zero, hn]
    push_cast
    rfl
  rw [hunits] at hm
  rw [hm.eq_of_natCast, ← hunits, div_mul_cancel₀ _ (by positivity)]

/-- The distance is at most half of the unit. -/
theorem abs_sub_le_of_unit {e : ℤ} {m : Nat} (h : HalfEven (r / 2 ^ e) m) :
    |m * 2 ^ e - r| ≤ 2 ^ (e - 1) := by
  have hpos : (0 : ℚ) < 2 ^ e := by positivity
  have hscaled : m * 2 ^ e - r = (m - r / 2 ^ e) * 2 ^ e := by
    field_simp
  rw [hscaled, abs_mul, abs_of_pos hpos, zpow_sub_one₀ two_ne_zero, mul_comm]
  gcongr
  exact h.near.trans_eq (one_div 2)

/-- **How far off the number is**, by a power of two that the ratio does not exceed. -/
theorem abs_sub_le (h : Nearest r x) {k : ℤ} (hk : Binary64.minExponent + 53 ≤ k)
    (hr : r ≤ 2 ^ k) : |x - r| ≤ 2 ^ (k - 54) := by
  rcases hr.eq_or_lt with rfl | hlt
  · have hexact : x = 2 ^ k := h.eq_of_multiple (j := 1) (i := k) (by simp) fun e he => by
      have := he.le_sub_of_le (by omega) le_rfl
      omega
    rw [hexact, sub_self, abs_zero]
    positivity
  · obtain ⟨e, m, he, hm, rfl⟩ := h
    have hle := he.le_sub_of_lt hk hlt
    exact (abs_sub_le_of_unit hm).trans (zpow_le_zpow_right₀ one_le_two (by omega))

/-- **How far off the number is**, as a part of the ratio. -/
theorem relative (h : Nearest r x) (hr : 2 ^ 52 * 2 ^ Binary64.minExponent ≤ r) :
    |x - r| * (2 ^ 53 + 1) ≤ r := by
  obtain ⟨e, m, he, hm, rfl⟩ := h
  have hpos : (0 : ℚ) < 2 ^ e := by positivity
  have hlow : (2 ^ 52 : ℚ) ≤ r / 2 ^ e := by
    rw [le_div_iff₀ hpos]
    rcases he.le with rfl | hle
    · exact hr
    · exact hle
  have hscaled : r = r / 2 ^ e * 2 ^ e := (div_mul_cancel₀ _ hpos.ne').symm
  generalize r / 2 ^ e = units at *
  subst hscaled
  rw [← sub_mul, abs_mul, abs_of_pos hpos, mul_right_comm]
  gcongr
  -- above the ratio lies at least the number after the least of this unit
  rcases le_total (m : ℚ) units with hle | hle
  · have hm52 : (2 ^ 52 : ℚ) ≤ m := by
      have : 2 ^ 52 ≤ m := hm.le_of_gt (by push_cast; linarith)
      exact_mod_cast this
    rw [abs_of_nonpos (by linarith)]
    linarith [hm.bounds.2]
  · rcases hle.eq_or_lt with heq | hlt
    · rw [heq, sub_self, abs_zero, zero_mul]
      positivity
    · have hm52 : (2 ^ 52 + 1 : ℚ) ≤ m := by
        have : 2 ^ 52 < m := by exact_mod_cast hlow.trans_lt hlt
        exact_mod_cast this
      rw [abs_of_nonneg (by linarith)]
      linarith [hm.bounds.1]

end Nearest

/-! ### Numbers of the format -/

namespace Binary64

variable {n d : Nat} {negative : Bool} {x : Binary64}

/-- The number without its sign. -/
def magnitude (x : Binary64) : ℚ :=
  x.significand * 2 ^ x.exponent

theorem zpow_of_nonneg {e : ℤ} (h : 0 ≤ e) : (2 : ℚ) ^ e = (Nat.pow 2 e.toNat : Nat) := by
  obtain ⟨k, rfl⟩ := Int.eq_ofNat_of_zero_le h
  simp

theorem zpow_of_neg {e : ℤ} (h : e < 0) : (2 : ℚ) ^ e = ((Nat.pow 2 (-e).toNat : Nat) : ℚ)⁻¹ := by
  rw [← zpow_of_nonneg (by omega), zpow_neg, inv_inv]

theorem ratio_eq (x : Binary64) : 0 < x.ratio.2 ∧ (x.ratio.1 / x.ratio.2 : ℚ) = x.magnitude := by
  rw [ratio, magnitude]
  split
  · next h =>
    rw [zpow_of_nonneg h]
    refine ⟨Nat.one_pos, ?_⟩
    push_cast
    rw [div_one]
  · next h =>
    rw [zpow_of_neg (by omega)]
    exact ⟨Nat.pow_pos Nat.two_pos, div_eq_mul_inv ..⟩

theorem inUnits_eq (n : Nat) (hd : 0 < d) (e : ℤ) :
    0 < (inUnits n d e).2 ∧ ((inUnits n d e).1 / (inUnits n d e).2 : ℚ) = n / d / 2 ^ e := by
  rw [inUnits]
  split
  · next h =>
    rw [zpow_of_nonneg h, div_div]
    exact ⟨Nat.mul_pos hd (Nat.pow_pos Nat.two_pos), by push_cast; rfl⟩
  · next h =>
    rw [zpow_of_neg (by omega), div_inv_eq_mul, div_mul_eq_mul_div]
    exact ⟨hd, by push_cast; rfl⟩

/-- The length of a binary numeral bounds the number on both sides. -/
theorem log2_bounds (hn : n ≠ 0) : (2 : ℚ) ^ (n.log2 : ℤ) ≤ n ∧ (n : ℚ) < 2 ^ (n.log2 + 1 : ℤ) := by
  have hlow := Nat.log2_self_le hn
  have hhigh := Nat.lt_log2_self (n := n)
  constructor
  · exact_mod_cast hlow
  · exact_mod_cast hhigh

/-- So the lengths of two numerals bound their ratio. -/
theorem div_bounds (hn : 0 < n) (hd : 0 < d) :
    2 ^ (n.log2 - d.log2 - 1 : ℤ) ≤ (n / d : ℚ) ∧ (n / d : ℚ) < 2 ^ (n.log2 - d.log2 + 1 : ℤ) := by
  have hpos : (0 : ℚ) < d := by exact_mod_cast hd
  obtain ⟨hnlow, hnhigh⟩ := log2_bounds hn.ne'
  obtain ⟨hdlow, hdhigh⟩ := log2_bounds hd.ne'
  constructor
  · rw [le_div_iff₀ hpos]
    calc 2 ^ (n.log2 - d.log2 - 1 : ℤ) * (d : ℚ)
        ≤ 2 ^ (n.log2 - d.log2 - 1 : ℤ) * 2 ^ (d.log2 + 1 : ℤ) := by gcongr
      _ = 2 ^ (n.log2 : ℤ) := by
          rw [← zpow_add₀ two_ne_zero]
          congr 1
          omega
      _ ≤ n := hnlow
  · rw [div_lt_iff₀ hpos]
    calc (n : ℚ) < 2 ^ (n.log2 + 1 : ℤ) := hnhigh
      _ = 2 ^ (n.log2 - d.log2 + 1 : ℤ) * 2 ^ (d.log2 : ℤ) := by
          rw [← zpow_add₀ two_ne_zero]
          congr 1
          omega
      _ ≤ 2 ^ (n.log2 - d.log2 + 1 : ℤ) * d := by gcongr

theorem unitOf_unitExponent (hn : 0 < n) (hd : 0 < d) : UnitOf (n / d) (unitExponent n d) := by
  obtain ⟨hlow, hhigh⟩ := div_bounds hn hd
  rw [unitExponent]
  -- the estimate by the lengths is at most one too small
  generalize he : max (Int.ofNat n.log2 - Int.ofNat d.log2 - 53) minExponent = e
  simp only [Int.ofNat_eq_natCast] at he
  obtain ⟨hpos, hunits⟩ := inUnits_eq n hd e
  have htest : Nat.pow 2 53 ≤ (inUnits n d e).1 / (inUnits n d e).2 ↔
      2 ^ 53 * 2 ^ e ≤ (n / d : ℚ) := by
    rw [Nat.le_div_iff_mul_le hpos, ← le_div_iff₀ (by positivity), ← hunits,
      le_div_iff₀ (by exact_mod_cast hpos)]
    exact_mod_cast Iff.rfl
  simp only
  split
  · next hlarge =>
    rw [htest] at hlarge
    refine ⟨by omega, ?_, .inr ?_⟩
    · refine hhigh.trans_le ?_
      have hpow : (2 : ℚ) ^ 53 * 2 ^ (e + 1) = 2 ^ (53 + (e + 1)) := by
        rw [zpow_add₀ two_ne_zero 53]
        norm_cast
      rw [hpow]
      exact zpow_le_zpow_right₀ one_le_two (by omega)
    · refine le_trans (le_of_eq ?_) hlarge
      rw [zpow_add_one₀ two_ne_zero]
      ring
  · next hsmall =>
    rw [htest, not_le] at hsmall
    refine ⟨by omega, hsmall, ?_⟩
    rcases eq_or_ne e minExponent with hmin | hmin
    · exact .inl hmin
    · refine .inr (le_trans (le_of_eq ?_) hlow)
      have hpow : (2 : ℚ) ^ 52 * 2 ^ e = 2 ^ (52 + e) := by
        rw [zpow_add₀ two_ne_zero]
        norm_cast
      rw [hpow]
      congr 1
      omega

/-- The significand of a ratio, in its unit; it may be one too large to have 53 digits. -/
def rounded (n d : Nat) : Nat :=
  roundHalfEven (inUnits n d (unitExponent n d)).1 (inUnits n d (unitExponent n d)).2

theorem halfEven_rounded (n : Nat) (hd : 0 < d) :
    HalfEven (n / d / 2 ^ unitExponent n d) (rounded n d) := by
  obtain ⟨hpos, hunits⟩ := inUnits_eq n hd (unitExponent n d)
  rw [← hunits]
  exact halfEven_roundHalfEven _ hpos

theorem ofRatio?_of_ne_zero (hn : n ≠ 0) :
    ofRatio? negative n d =
      if rounded n d = 2 ^ 53 then
        if maxExponent < unitExponent n d + 1 then none
        else some ⟨negative, 2 ^ 52, unitExponent n d + 1⟩
      else if maxExponent < unitExponent n d then none
      else some ⟨negative, rounded n d, unitExponent n d⟩ := by
  rw [ofRatio?, if_neg hn]
  by_cases hfull : rounded n d = 2 ^ 53
  · have htest : roundHalfEven _ _ = Nat.pow 2 53 := hfull
    simp only [if_pos hfull, if_pos htest]
    rfl
  · have htest : ¬ roundHalfEven _ _ = Nat.pow 2 53 := hfull
    simp only [if_neg hfull, if_neg htest]
    rfl

/-- **A number that is found is the nearest.** -/
theorem nearest_of_ofRatio? (hd : 0 < d) (h : ofRatio? negative n d = some x) :
    Nearest (n / d) x.magnitude := by
  rcases Nat.eq_zero_or_pos n with rfl | hn
  · cases h
    refine ⟨minExponent, 0, ⟨le_rfl, ?_, .inl rfl⟩, ⟨by simp, by simp⟩, by simp [magnitude, zero]⟩
    rw [Nat.cast_zero, zero_div]
    positivity
  · refine ⟨unitExponent n d, _, unitOf_unitExponent hn hd, halfEven_rounded n hd, ?_⟩
    rw [ofRatio?_of_ne_zero hn.ne'] at h
    split at h
    · next hfull =>
      rw [hfull]
      split at h
      · cases h
      · cases h
        rw [magnitude, zpow_add_one₀ two_ne_zero]
        push_cast
        ring
    · split at h
      · cases h
      · cases h
        rfl

/-- Far below the largest number, there is a nearest one. -/
theorem exists_ofRatio? (negative : Bool) (hd : 0 < d) (h : (n / d : ℚ) < 2 ^ (1023 : ℤ)) :
    ∃ x, ofRatio? negative n d = some x := by
  rcases Nat.eq_zero_or_pos n with rfl | hn
  · exact ⟨_, rfl⟩
  · have hunit := (unitOf_unitExponent hn hd).le_sub_of_lt (by decide) h
    have hmax : maxExponent = 971 := rfl
    rw [ofRatio?_of_ne_zero hn.ne']
    split
    · rw [if_neg (by omega)]
      exact ⟨_, rfl⟩
    · rw [if_neg (by omega)]
      exact ⟨_, rfl⟩

/-- So an integer has a nearest number. -/
theorem exists_ofNat? (h : (n : ℚ) < 2 ^ (1023 : ℤ)) :
    ∃ x, ofNat? n = some x ∧ Nearest n x.magnitude := by
  rw [← div_one (n : ℚ), ← Nat.cast_one] at h
  obtain ⟨x, hx⟩ := exists_ofRatio? false Nat.one_pos h
  have hnearest := nearest_of_ofRatio? Nat.one_pos hx
  rw [Nat.cast_one, div_one] at hnearest
  exact ⟨x, hx, hnearest⟩

/-- And so has a quotient. -/
theorem exists_div? {y : Binary64} (hy : 0 < y.magnitude)
    (h : x.magnitude / y.magnitude < 2 ^ (1023 : ℤ)) :
    ∃ z, x.div? y = some z ∧ Nearest (x.magnitude / y.magnitude) z.magnitude := by
  obtain ⟨hxpos, hxratio⟩ := ratio_eq x
  obtain ⟨hypos, hyratio⟩ := ratio_eq y
  have hnumerator : 0 < y.ratio.1 := by
    rw [← hyratio] at hy
    by_contra hzero
    rw [Nat.eq_zero_of_not_pos hzero, Nat.cast_zero, zero_div] at hy
    exact hy.ne rfl
  have hquotient : ((x.ratio.1 * y.ratio.2 : Nat) / (x.ratio.2 * y.ratio.1 : Nat) : ℚ) =
      x.magnitude / y.magnitude := by
    rw [← hxratio, ← hyratio, Nat.cast_mul, Nat.cast_mul, div_div_div_eq]
  have hpos := Nat.mul_pos hxpos hnumerator
  rw [← hquotient] at h ⊢
  obtain ⟨z, hz⟩ := exists_ofRatio? (x.negative != y.negative) hpos h
  exact ⟨z, hz, nearest_of_ofRatio? hpos hz⟩

end Binary64

end ScaleMetrics
