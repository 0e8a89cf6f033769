import ScaleMetrics.Proofs.Numerals
import ScaleMetrics.Settings.Value

/-!
# Proofs — Rereading

What becomes of a text in the environment when a setting needs a text.  The text is taken for a
truth value or a number if it looks like one (`Value.Means`), and written again (`Value.reread`).

* `Value.ofText_eq_iff`: the value of a text is what it means.
* `Value.reread_eq_iff`: which texts stay as they are (`Value.Kept`).
* `Value.not_kept_of_exponent`: no numeral with an exponent does.
-/

namespace ScaleMetrics

open Binary64 (Numeral)
open Quantity (AllDigits)

/-! ### Texts of numbers -/

namespace Binary64

/-- There is no exponent in the text. -/
def NoMark (text : List Char) : Prop :=
  'e' ∉ text ∧ 'E' ∉ text

instance (text : List Char) : Decidable (NoMark text) :=
  inferInstanceAs (Decidable (_ ∧ _))

theorem NoMark.append {xs ys : List Char} (hx : NoMark xs) (hy : NoMark ys) : NoMark (xs ++ ys) :=
  ⟨fun h => (List.mem_append.1 h).elim hx.1 hy.1, fun h => (List.mem_append.1 h).elim hx.2 hy.2⟩

theorem noMark_of_allDigits {text : List Char} (h : AllDigits text) : NoMark text :=
  ⟨fun hmem => absurd (h 'e' hmem) (by decide), fun hmem => absurd (h 'E' hmem) (by decide)⟩

/-- Digits stay digits without the zeros at their end. -/
theorem Decimal.allDigits_ofNat (n : Nat) (e : Int) : AllDigits (Decimal.ofNat n e).digits := by
  intro c hmem
  rw [Decimal.ofNat, List.mem_reverse] at hmem
  have hreversed := (List.dropWhile_sublist _).mem hmem
  exact Digits.allDigits_toDigits n c (List.mem_reverse.1 hreversed)

theorem allDigits_shortestFrom (x : Binary64) (top : Int) (left count : Nat) :
    AllDigits (x.shortestFrom top left count).digits := by
  induction left generalizing count with
  | zero => exact Decimal.allDigits_ofNat _ _
  | succ left ih =>
      rw [shortestFrom]
      dsimp only
      split
      · exact Decimal.allDigits_ofNat _ _
      · split
        · exact Decimal.allDigits_ofNat _ _
        · exact ih (count + 1)

theorem Decimal.noMark_positional {decimal : Decimal} (h : AllDigits decimal.digits) :
    NoMark (decimal.positional []) := by
  have hzeros (n : Int) : NoMark (zeros n) := noMark_of_allDigits fun c hmem => by
    rw [(List.mem_replicate.1 hmem).2]
    rfl
  have hpoint : NoMark ['.'] := by decide
  have hzero : NoMark ['0', '.'] := by decide
  rw [positional]
  split
  · exact (hzero.append (hzeros _)).append (noMark_of_allDigits h)
  · split
    · exact ((noMark_of_allDigits h).append (hzeros _)).append (by decide)
    · exact ((noMark_of_allDigits fun c hmem => h c (List.mem_of_mem_take hmem)).append
        hpoint).append (noMark_of_allDigits fun c hmem => h c (List.mem_of_mem_drop hmem))

/-- **The text of a number has no exponent.** -/
theorem Extended.noMark_text (x : Extended) : NoMark x.text.toList := by
  cases x with
  | finite x =>
      have hsign : NoMark x.sign := by
        rw [sign]
        split <;> decide
      rw [text, plain, String.toList_ofList]
      refine hsign.append ?_
      split
      · decide
      · exact Decimal.noMark_positional (allDigits_shortestFrom x _ _ _)
  | infinite negative => cases negative <;> decide
  | nan => decide

end Binary64

/-! ### Texts in the environment -/

namespace Settings.Value

/-- What a text in the environment means: a truth value, or a number if it is the text of one, and
an integer if that can be held. -/
inductive Means (text : String) : Value → Prop where
  | flag {b : Bool} : Text.lowered text = toString b → Means text (.flag b)
  | integer {n : Int} : Digits.int? text.toList = some n → isSigned64 n = true →
      Means text (.integer n)
  | real {x : Binary64.Extended} :
      (∀ n, Digits.int? text.toList = some n → isSigned64 n = false) →
      Binary64.Extended.read? text = some x → Means text (.real x)
  | text : (∀ b : Bool, Text.lowered text ≠ toString b) → ¬ Numeral text.toList →
      Means text (.text text)

theorem lowered_ne_of_numeral {text : String} (h : Numeral text.toList) (b : Bool) :
    Text.lowered text ≠ toString b := by
  intro heq
  have hhead := Binary64.Extended.lower_head_of_numeral h
  have hlist : text.toList.map Text.lower = (toString b).toList := by
    rw [← heq, Text.lowered, String.toList_ofList]
  cases hchars : text.toList with
  | nil =>
      rw [hchars] at hlist
      cases b <;> cases hlist
  | cons c rest =>
      rw [hchars] at hlist hhead
      obtain ⟨ht, hf⟩ := hhead c rfl
      cases b with
      | true => exact ht (List.cons.inj hlist).1
      | false => exact hf (List.cons.inj hlist).1

section

variable {text : String}

theorem ofText_of_flag {b : Bool} (h : Text.lowered text = toString b) : ofText text = .flag b := by
  rw [ofText, h]
  cases b <;> rfl

theorem ofText_of_integer {n : Int} (hn : Digits.int? text.toList = some n)
    (hheld : isSigned64 n = true) : ofText text = .integer n := by
  have hflag := lowered_ne_of_numeral (Binary64.Extended.numeral_of_int? hn)
  have htrue : Text.lowered text ≠ "true" := hflag true
  have hfalse : Text.lowered text ≠ "false" := hflag false
  rw [ofText, if_neg htrue, if_neg hfalse, hn]
  exact if_pos hheld

theorem ofText_of_notInteger (hflag : ∀ b : Bool, Text.lowered text ≠ toString b)
    (hint : ∀ n, Digits.int? text.toList = some n → isSigned64 n = false) :
    ofText text = ofText.ofReal text := by
  have htrue : Text.lowered text ≠ "true" := hflag true
  have hfalse : Text.lowered text ≠ "false" := hflag false
  rw [ofText, if_neg htrue, if_neg hfalse]
  split
  · next n hn => rw [hint n hn, if_neg Bool.false_ne_true]
  · rfl

theorem ofReal_of_read? {x : Binary64.Extended} (h : Binary64.Extended.read? text = some x) :
    ofText.ofReal text = .real x := by
  rw [ofText.ofReal, h]

theorem ofReal_of_not_numeral (h : ¬ Numeral text.toList) : ofText.ofReal text = .text text := by
  rw [ofText.ofReal]
  cases hread : Binary64.Extended.read? text with
  | none => rfl
  | some x => exact absurd (Binary64.Extended.exists_read?_iff.1 ⟨x, hread⟩) h

/-- What a text means is its value. -/
theorem Means.ofText_eq {value : Value} (h : Means text value) : ofText text = value := by
  cases h with
  | flag hb => exact ofText_of_flag hb
  | integer hn hheld => exact ofText_of_integer hn hheld
  | real hint hread =>
      have hnumeral := Binary64.Extended.exists_read?_iff.1 ⟨_, hread⟩
      rw [ofText_of_notInteger (lowered_ne_of_numeral hnumeral) hint, ofReal_of_read? hread]
  | text hflag hnumeral =>
      rw [ofText_of_notInteger hflag fun n hn =>
        absurd (Binary64.Extended.numeral_of_int? hn) hnumeral, ofReal_of_not_numeral hnumeral]

theorem exists_means (text : String) : ∃ value, Means text value := by
  by_cases hflag : ∃ b : Bool, Text.lowered text = toString b
  · obtain ⟨b, hb⟩ := hflag
    exact ⟨_, .flag hb⟩
  · by_cases hint : ∃ n, Digits.int? text.toList = some n ∧ isSigned64 n = true
    · obtain ⟨n, hn, hheld⟩ := hint
      exact ⟨_, .integer hn hheld⟩
    · by_cases hnumeral : Numeral text.toList
      · obtain ⟨x, hread⟩ := Binary64.Extended.exists_read?_iff.2 hnumeral
        exact ⟨_, .real (fun n hn => Bool.eq_false_iff.2 fun hheld => hint ⟨n, hn, hheld⟩) hread⟩
      · exact ⟨_, .text (not_exists.1 hflag) hnumeral⟩

/-- **The value of a text** is what the text means. -/
theorem ofText_eq_iff {value : Value} : ofText text = value ↔ Means text value := by
  constructor
  · rintro rfl
    obtain ⟨value, h⟩ := exists_means text
    rwa [h.ofText_eq]
  · exact Means.ofText_eq

end

/-- What a text in the environment is when it is read as a text again. -/
def reread (text : String) : String :=
  ((ofText text).toText?).getD text

theorem toText?_ofText (text : String) : (ofText text).toText? = some (reread text) := by
  obtain ⟨value, h⟩ := exists_means text
  rw [reread, h.ofText_eq]
  cases h <;> rfl

/-- The texts that stay as they are: those that are neither a truth value nor a number, and those
that are written as their value is written. -/
inductive Kept (text : String) : Prop where
  | word : (∀ b : Bool, Text.lowered text ≠ toString b) → ¬ Numeral text.toList → Kept text
  | flag {b : Bool} : text = toString b → Kept text
  | integer {n : Int} : isSigned64 n = true → text = toString n → Kept text
  | real {x : Binary64.Extended} :
      (∀ n, Digits.int? text.toList = some n → isSigned64 n = false) →
      Binary64.Extended.read? text = some x → text = x.text → Kept text

theorem reread_eq_iff {text : String} : reread text = text ↔ Kept text := by
  constructor
  · intro hreread
    obtain ⟨value, h⟩ := exists_means text
    rw [reread, h.ofText_eq] at hreread
    cases h with
    | @flag b _ => exact .flag (b := b) (by cases b <;> exact hreread.symm)
    | integer _ hheld => exact .integer hheld hreread.symm
    | real hint hread => exact .real hint hread hreread.symm
    | text hflag hnumeral => exact .word hflag hnumeral
  · intro h
    cases h with
    | word hflag hnumeral => rw [reread, (Means.text hflag hnumeral).ofText_eq]; rfl
    | @flag b hb =>
        rw [hb]
        cases b <;> decide +kernel
    | @integer n hheld htext =>
        have hn : Digits.int? text.toList = some n := by rw [htext, Digits.int?_toString]
        rw [reread, ofText_of_integer hn hheld, htext]
        rfl
    | real hint hread htext =>
        rw [reread, (Means.real hint hread).ofText_eq]
        exact htext.symm

/-- **A numeral with an exponent is changed.** -/
theorem not_kept_of_exponent {text : String} (h : Numeral text.toList)
    (hmark : ¬ Binary64.NoMark text.toList) : ¬ Kept text := by
  intro hkept
  cases hkept with
  | word _ hnumeral => exact hnumeral h
  | @flag b hb =>
      refine lowered_ne_of_numeral h b ?_
      rw [hb]
      cases b <;> decide
  | @integer n _ htext =>
      have hsign : Binary64.NoMark (Digits.minus n) := by
        rw [Digits.minus]
        split <;> decide
      rw [htext, Digits.toList_toString] at hmark
      exact hmark (hsign.append (Binary64.noMark_of_allDigits (Digits.allDigits_toDigits _)))
  | @real x _ _ htext => exact hmark (htext ▸ x.noMark_text)

end Settings.Value

end ScaleMetrics
