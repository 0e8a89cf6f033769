import ScaleMetrics.Proofs.Words

/-!
# Proofs — Range error

What it says of a text that its value is out of range (`range_error_iff`).  Some small amounts are
out of range (`small_out_of_range`).
-/

namespace ScaleMetrics.Quantity

/-- What is too large on the way and can be held is a zero with the greatest exponent, or has a
long fraction: one with a binary suffix, or one of almost 2³¹ digits. -/
theorem Spells.overlarge_of_held {text : String} {s : Spelling}
    (hs : Spells (Text.trim text.toList) s) (hheld : Milli.Held s.milli)
    (h : s.literal.Overlarge) :
    (s.digits = 0 ∧ s.fraction = [] ∧ s.multiplier = .decimal 36) ∨
      (20 ≤ s.fraction.length ∧ ∃ e, s.multiplier = .binary e) ∨
      (2 ^ 31 - 32 ≤ s.fraction.length ∧ ∃ e, s.multiplier = .decimal e) := by
  rw [← s.amount_literal] at hheld
  cases h with
  | zero hdigits hplaces he => exact .inl ⟨hdigits, List.length_eq_zero_iff.1 hplaces, he⟩
  | @product e he hbound =>
      obtain ⟨negative, whole, fraction, multiplier⟩ := s
      obtain rfl : multiplier = .binary e := he
      exact .inr (.inl ⟨Literal.twenty_le_places hheld hbound, e, rfl⟩)
  | wrapped hshift => exact .inr (.inr (hs.places_of_not_shiftHeld hshift))

/-- **The range error** says that the amount cannot be held, or that it was too large on the way;
in all other cases the amount is found.  With checks a text has the same outcome, but for the fault
of an exponent that wraps.  What is too large on the way and can be held is a zero with the greatest
exponent, or has twenty digits behind the point and a binary suffix, or almost 2³¹ of them. -/
theorem range_error_iff {text : String} {s : Spelling} (h : Spells (Text.trim text.toList) s)
    (hsize : text.utf8ByteSize < 2 ^ 31) (hdigits : s.digits < 2 ^ 127) :
    (milli text = .error .outOfRange ↔ ¬ Milli.Held s.milli ∨ s.literal.Overlarge) ∧
    (∀ v : Milli, milli text = .ok v ↔ v.val = s.milli ∧ ¬ s.literal.Overlarge) ∧
    (s.literal.ShiftHeld → Words.milli text = .ok (milli text)) ∧
    (¬ s.literal.ShiftHeld → Words.milli text = .error .overflow) ∧
    (Milli.Held s.milli → s.literal.Overlarge →
      (s.digits = 0 ∧ s.fraction = [] ∧ s.multiplier = .decimal 36) ∨
        (20 ≤ s.fraction.length ∧ ∃ e, s.multiplier = .binary e) ∨
        (2 ^ 31 - 32 ≤ s.fraction.length ∧ ∃ e, s.multiplier = .decimal e)) := by
  have hbound : s.digits < magnitudeBound := hdigits
  have hreadable := h.readable hbound (h.length_lt.trans hsize)
  have hmilli : milli text = s.literal.milli := by
    rw [milli_of_spells h, if_neg (Nat.not_le.2 hbound)]
  refine ⟨?_, fun v => ?_, Words.milli_spelled hsize h hdigits, Words.milli_fault hsize h hdigits,
    h.overlarge_of_held⟩
  · rw [hmilli, Literal.milli_eq_error_iff hreadable, s.amount_literal, and_iff_right rfl]
  · rw [hmilli, Literal.milli_eq_ok_iff hreadable, s.amount_literal]

/-- The law at `-1.5Ki`. -/
theorem range_error_iff_kibi :
    Spells (Text.trim "-1.5Ki".toList) ⟨true, ['1'], ['5'], .binary 10⟩ ∧
    "-1.5Ki".utf8ByteSize < 2 ^ 31 ∧
    Spelling.digits ⟨true, ['1'], ['5'], .binary 10⟩ < 2 ^ 127 ∧
    ∃ v : Milli, milli "-1.5Ki" = .ok v ∧ v.val = -1536000 := by
  have hnumber : NumberText (['1'] ++ ['.', '5']) ['1'] ['5'] := .pointed (by decide) (by decide)
  have hsuffix : SuffixText ['K', 'i'] (.binary 10) := .symbol (by decide)
  have hspells : Spells (Text.trim "-1.5Ki".toList) ⟨true, ['1'], ['5'], .binary 10⟩ :=
    .mk .minus hnumber hsuffix
  have hdigits : Spelling.digits ⟨true, ['1'], ['5'], .binary 10⟩ < 2 ^ 127 := by decide
  have hreadable := hspells.readable hdigits (by decide)
  have hmilli : Spelling.milli ⟨true, ['1'], ['5'], .binary 10⟩ = -1536000 := by
    rw [← Spelling.amount_literal, Literal.amount,
      Literal.ceil_exact (n := 1536000) hreadable (by decide +kernel)]
    rfl
  refine ⟨hspells, by decide, hdigits, ⟨-1536000, by decide, by decide⟩, ?_, rfl⟩
  refine ((range_error_iff hspells (by decide) hdigits).2.1 _).2 ⟨hmilli.symm, fun hover => ?_⟩
  exact absurd (Literal.overlarge_binary_iff.1 hover) (by decide)

/-- **Small amounts can be out of range**: nothing, and 1024 in one of its spellings, while another
spelling of nothing has its amount. -/
theorem small_out_of_range :
    Spells (Text.trim "0e36".toList) ⟨false, ['0'], [], .decimal 36⟩ ∧
    Spelling.milli ⟨false, ['0'], [], .decimal 36⟩ = 0 ∧
    milli "0e36" = .error .outOfRange ∧
    milli "0.0e36" = .ok .zero ∧
    Spells (Text.trim "1.000000000000000000000000000000000Ki".toList)
      ⟨false, ['1'], List.replicate 33 '0', .binary 10⟩ ∧
    Spelling.milli ⟨false, ['1'], List.replicate 33 '0', .binary 10⟩ = 1024000 ∧
    milli "1.000000000000000000000000000000000Ki" = .error .outOfRange := by
  have hzero : NumberText ['0'] ['0'] [] := .whole (by decide) (by decide)
  have hexponent : SuffixText ['e', '3', '6'] (.decimal 36) :=
    (ofSuffix?_eq_some_iff (by decide)).1 (by decide)
  have hone : NumberText (['1'] ++ '.' :: List.replicate 33 '0') ['1'] (List.replicate 33 '0') :=
    .pointed (by decide) (by decide)
  have hkibi : SuffixText ['K', 'i'] (.binary 10) := .symbol (by decide)
  refine ⟨.mk .absent hzero hexponent, ?_, rfl, rfl, .mk .absent hone hkibi, ?_, by decide +kernel⟩
  · rw [← Spelling.amount_literal, Spelling.literal, Literal.amount, Literal.exact_decimal]
    simp [Spelling.digits, Digits.value]
  · rw [← Spelling.amount_literal, Spelling.literal, Literal.amount, Literal.exact_binary,
      ceil_eq_ceilDiv _ (by positivity)]
    decide +kernel

end ScaleMetrics.Quantity
