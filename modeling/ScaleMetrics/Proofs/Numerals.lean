import ScaleMetrics.Binary64.Extended
import ScaleMetrics.Proofs.Spelling
import ScaleMetrics.Proofs.Timestamps

/-!
# Proofs — Numerals

The texts that are numbers.

* `Digits.int?_toString`: an integer is read back from its text.
* `Binary64.Numeral`: the grammar of the texts that are floating-point numbers, in digits or in
  words.  `Binary64.exists_read?_iff`: they are those that are read as one.  The text of an integer
  is such a text (`Binary64.numeral_of_int?`).
-/

namespace ScaleMetrics

open Quantity (AllDigits NumberText SignText Unsigned signed)

/-! ### Integers -/

namespace Digits

theorem allDigits_toDigits (n : Nat) : AllDigits (Nat.toDigits 10 n) :=
  fun _ => Nat.isDigit_of_mem_toDigits (by decide) (by decide)

/-- The sign in front of an integer. -/
def minus (n : Int) : List Char :=
  if n < 0 then ['-'] else []

theorem signText_minus (n : Int) : SignText (minus n) (decide (n < 0)) := by
  rw [minus]
  split
  · next h =>
    rw [decide_eq_true h]
    exact .minus
  · next h =>
    rw [decide_eq_false h]
    exact .absent

theorem signed_natAbs (n : Int) : signed (decide (n < 0)) n.natAbs = n := by
  rw [signed]
  split
  · next h =>
    have := of_decide_eq_true h
    omega
  · next h =>
    have := of_decide_eq_false (Bool.eq_false_iff.2 h)
    omega

theorem toList_toString_nat (n : Nat) : (toString n).toList = Nat.toDigits 10 n :=
  String.toList_ofList

theorem toList_toString (n : Int) : (toString n).toList = minus n ++ Nat.toDigits 10 n.natAbs := by
  cases n with
  | ofNat n => exact toList_toString_nat n
  | negSucc n =>
      show ("-" ++ Nat.repr (n + 1)).toList = _
      rw [String.toList_append, minus, if_pos (Int.negSucc_lt_zero n), Int.natAbs_negSucc]
      exact congrArg ('-' :: ·) (toList_toString_nat (n + 1))

/-- **An integer is read back from its text.** -/
theorem int?_toString (n : Int) : int? (toString n).toList = some n := by
  refine Quantity.int?_eq_some_iff.2 ⟨_, _, _, signText_minus n, Nat.toDigits_ne_nil,
    allDigits_toDigits n.natAbs, toList_toString n, ?_⟩
  rw [Instant.value_toDigits, signed_natAbs]

end Digits

/-! ### Floating-point numbers -/

namespace Binary64

/-- An exponent or none. -/
inductive ExponentText : List Char → Prop where
  | absent : ExponentText []
  | present {mark : Char} {sign digits : List Char} {negative : Bool} :
      mark = 'e' ∨ mark = 'E' → SignText sign negative → digits ≠ [] → AllDigits digits →
      ExponentText (mark :: (sign ++ digits))

/-- The words that are numbers, in lower case. -/
def numberWords : List String :=
  ["inf", "infinity", "nan"]

/-- The text of a number without its sign: in digits, or in words of letters of either case. -/
inductive UnsignedText : List Char → Prop where
  | digits {number whole fraction exponent : List Char} :
      NumberText number whole fraction → ExponentText exponent → UnsignedText (number ++ exponent)
  | word {word : List Char} : String.ofList (word.map Text.lower) ∈ numberWords → UnsignedText word

/-- The text of a floating-point number. -/
inductive Numeral : List Char → Prop where
  | mk {sign text : List Char} {negative : Bool} : SignText sign negative → UnsignedText text →
      Numeral (sign ++ text)

namespace Extended

theorem exists_exponent?_iff {text : List Char} :
    (∃ e, exponent? text = some e) ↔ ExponentText text := by
  constructor
  · rintro ⟨e, h⟩
    cases text with
    | nil => exact .absent
    | cons mark rest =>
        rw [exponent?] at h
        split at h
        · next hmark =>
          obtain ⟨sign, digits, negative, hsign, hne, hall, rfl, -⟩ :=
            Quantity.int?_eq_some_iff.1 h
          exact .present (by simpa using hmark) hsign hne hall
        · cases h
  · intro h
    cases h with
    | absent => exact ⟨0, rfl⟩
    | @present mark sign digits negative hmark hsign hne hall =>
        refine ⟨signed negative (Digits.value digits), ?_⟩
        rw [exponent?, if_pos (by simpa using hmark)]
        exact Quantity.int?_eq_some_iff.2 ⟨sign, digits, negative, hsign, hne, hall, rfl, rfl⟩

/-- What an exponent starts with is no part of the number in front of it. -/
theorem head_of_exponentText {text : List Char} (h : ExponentText text) :
    ∀ c ∈ text.head?, c = 'e' ∨ c = 'E' := by
  cases h with
  | absent => rintro c ⟨⟩
  | present hmark =>
      rintro c ⟨⟩
      exact hmark

theorem stops_of_exponentText {text : List Char} (h : ExponentText text) : Instant.Stops text := by
  intro c hc
  rcases head_of_exponentText h c hc with rfl | rfl <;> rfl

theorem dropWhile_digits {digits rest : List Char} (h : AllDigits digits)
    (hrest : Instant.Stops rest) : (digits ++ rest).dropWhile Char.isDigit = rest := by
  have hsplit := List.takeWhile_append_dropWhile (p := Char.isDigit) (l := digits ++ rest)
  rw [Instant.takeWhile_digits h hrest] at hsplit
  exact List.append_cancel_left hsplit

/-- The digits behind a point, if there is one, and the rest. -/
def splitFraction : List Char → List Char × List Char
  | '.' :: more => (more.takeWhile Char.isDigit, more.dropWhile Char.isDigit)
  | behind => ([], behind)

/-- A numeral is read if there is a digit and what is left is an exponent. -/
theorem exists_decimal?_iff_of_split {negative : Bool} {text whole fraction rest : List Char}
    (hwhole : text.takeWhile Char.isDigit = whole)
    (hsplit : splitFraction (text.dropWhile Char.isDigit) = (fraction, rest)) :
    (∃ x, decimal? negative text = some x) ↔ whole ++ fraction ≠ [] ∧ ExponentText rest := by
  have hread : decimal? negative text = (do
      guard (!(whole ++ fraction).isEmpty)
      let e ← exponent? rest
      return ofDecimal negative (Digits.value (whole ++ fraction)) (whole ++ fraction).length
        (e - fraction.length)) := by
    rw [decimal?, hwhole]
    dsimp only
    split
    · next more hbehind =>
      rw [hbehind] at hsplit
      cases hsplit
      rfl
    · next hbehind =>
      rw [splitFraction] at hsplit
      · cases hsplit
        rfl
      · exact hbehind
  rw [hread, ← exists_exponent?_iff]
  cases hdigits : whole ++ fraction with
  | nil => simp [guard]
  | cons c digits => cases exponent? rest <;> simp [guard]

theorem splitFraction_of_ne {behind : List Char} (h : ∀ c ∈ behind.head?, c ≠ '.') :
    splitFraction behind = ([], behind) := by
  rw [splitFraction]
  rintro more rfl
  exact h '.' rfl rfl

theorem exists_decimal?_iff {negative : Bool} {text : List Char} :
    (∃ x, decimal? negative text = some x) ↔
      ∃ number whole fraction exponent, NumberText number whole fraction ∧
        ExponentText exponent ∧ text = number ++ exponent := by
  have hdigits (text : List Char) : AllDigits (text.takeWhile Char.isDigit) :=
    fun _ => List.mem_takeWhile_imp
  have htext := List.takeWhile_append_dropWhile (p := Char.isDigit) (l := text)
  constructor
  · intro h
    by_cases hpoint : ∀ c ∈ (text.dropWhile Char.isDigit).head?, c ≠ '.'
    · obtain ⟨hne, hexponent⟩ :=
        (exists_decimal?_iff_of_split rfl (splitFraction_of_ne hpoint)).1 h
      rw [List.append_nil] at hne
      exact ⟨_, _, [], _, .whole hne (hdigits _), hexponent, htext.symm⟩
    · -- the digits go on behind a point
      obtain ⟨more, hmore⟩ : ∃ more, text.dropWhile Char.isDigit = '.' :: more := by
        cases hbehind : text.dropWhile Char.isDigit with
        | nil => simp [hbehind] at hpoint
        | cons c more =>
            simp only [hbehind, List.head?_cons, Option.mem_def, Option.some.injEq, forall_eq',
              not_not] at hpoint
            exact ⟨more, by rw [hpoint]⟩
      have hsplit : splitFraction (text.dropWhile Char.isDigit) =
          (more.takeWhile Char.isDigit, more.dropWhile Char.isDigit) := by rw [hmore]; rfl
      obtain ⟨hne, hexponent⟩ := (exists_decimal?_iff_of_split rfl hsplit).1 h
      refine ⟨_, _, _, _, .pointed hne fun c hmem => ?_, hexponent, ?_⟩
      · exact (List.mem_append.1 hmem).elim (hdigits _ c) (hdigits _ c)
      · rw [List.append_assoc, List.cons_append, List.takeWhile_append_dropWhile, ← hmore, htext]
  · rintro ⟨number, whole, fraction, exponent, hnumber, hexponent, rfl⟩
    have hstops := stops_of_exponentText hexponent
    cases hnumber with
    | whole hne hall =>
        have hpoint : ∀ c ∈ exponent.head?, c ≠ '.' := fun c hc => by
          rcases head_of_exponentText hexponent c hc with rfl | rfl <;> decide
        have hsplit : splitFraction ((number ++ exponent).dropWhile Char.isDigit) =
            ([], exponent) := by
          rw [dropWhile_digits hall hstops, splitFraction_of_ne hpoint]
        exact (exists_decimal?_iff_of_split (Instant.takeWhile_digits hall hstops) hsplit).2
          ⟨by rwa [List.append_nil], hexponent⟩
    | pointed hne hall =>
        have hwhole : AllDigits whole := fun c hmem => hall c (List.mem_append_left _ hmem)
        have hfraction : AllDigits fraction := fun c hmem => hall c (List.mem_append_right _ hmem)
        have hpoint : Instant.Stops ('.' :: (fraction ++ exponent)) := by rintro c ⟨⟩; rfl
        have hsplit : splitFraction
            ((whole ++ '.' :: (fraction ++ exponent)).dropWhile Char.isDigit) =
              (fraction, exponent) := by
          rw [dropWhile_digits hwhole hpoint, splitFraction,
            Instant.takeWhile_digits hfraction hstops, dropWhile_digits hfraction hstops]
        rw [List.append_assoc, List.cons_append]
        exact (exists_decimal?_iff_of_split (Instant.takeWhile_digits hwhole hpoint) hsplit).2
          ⟨hne, hexponent⟩

/-- The sign is split off as that of a quantity is. -/
theorem read?_eq (text : String) :
    read? text =
      unsigned? (Quantity.splitSign text.toList).1 (Quantity.splitSign text.toList).2 := by
  rw [read?]
  split
  · next rest h =>
    rw [h]
    rfl
  · next rest h =>
    rw [h]
    rfl
  · next hminus hplus =>
    rw [Quantity.splitSign]
    · exact hminus
    · exact hplus

theorem exists_unsigned?_iff {negative : Bool} {text : List Char} :
    (∃ x, unsigned? negative text = some x) ↔ UnsignedText text := by
  have hword : String.ofList (text.map Text.lower) ∈ numberWords ↔
      (String.ofList (text.map Text.lower) = "inf" ∨
        String.ofList (text.map Text.lower) = "infinity") ∨
      String.ofList (text.map Text.lower) = "nan" := by
    rw [numberWords, or_assoc]
    simp
  have hsplit : UnsignedText text ↔ String.ofList (text.map Text.lower) ∈ numberWords ∨
      ∃ x, decimal? negative text = some x := by
    rw [exists_decimal?_iff]
    constructor
    · intro h
      cases h with
      | digits hnumber hexponent => exact .inr ⟨_, _, _, _, hnumber, hexponent, rfl⟩
      | word h => exact .inl h
    · rintro (h | ⟨number, whole, fraction, exponent, hnumber, hexponent, rfl⟩)
      · exact .word h
      · exact .digits hnumber hexponent
  rw [hsplit, hword, unsigned?]
  split
  · next h => simp [h]
  · next h =>
    split
    · next h' => simp [h']
    · next h' => simp only [h, h', false_or]

theorem lower_of_isNumeral {c : Char} (h : Quantity.isNumeral c = true) : Text.lower c = c := by
  rw [Text.lower, if_neg (by rintro rfl; cases h)]
  rcases Bool.or_eq_true_iff.1 h with hdigit | hpoint
  · simp only [Char.isDigit, Bool.and_eq_true, decide_eq_true_eq] at hdigit
    rw [Char.toLower, dif_neg]
    rintro ⟨hlow, -⟩
    exact absurd (UInt32.le_trans hlow hdigit.2) (by decide)
  · rw [beq_iff_eq.1 hpoint]
    rfl

/-- How a number without a sign starts. -/
theorem head_of_unsignedText {text : List Char} (h : UnsignedText text) :
    ∃ c rest, text = c :: rest ∧ (Text.lower c = 'i' ∨ Text.lower c = 'n' ∨
      Quantity.isNumeral c = true) := by
  cases h with
  | @digits number _ _ _ hnumber hexponent =>
      obtain ⟨c, rest, hcons⟩ := List.exists_cons_of_ne_nil hnumber.ne_nil
      rw [hcons]
      exact ⟨c, _, rfl, .inr (.inr (hnumber.isNumeral c (by simp [hcons])))⟩
  | word hword =>
      cases text with
      | nil => simp [numberWords] at hword
      | cons c rest =>
          refine ⟨c, rest, rfl, ?_⟩
          have hhead {first : Char} (word : List Char)
              (h : String.ofList ((c :: rest).map Text.lower) = String.ofList (first :: word)) :
              Text.lower c = first :=
            (List.cons.inj (String.ofList_injective h)).1
          simp only [numberWords, List.mem_cons, List.not_mem_nil, or_false] at hword
          rcases hword with h | h | h
          · exact .inl (hhead ['n', 'f'] h)
          · exact .inl (hhead "nfinity".toList h)
          · exact .inr (.inl (hhead ['a', 'n'] h))

theorem unsigned_of_unsignedText {text : List Char} (h : UnsignedText text) : Unsigned text := by
  obtain ⟨c, rest, rfl, hc⟩ := head_of_unsignedText h
  rintro c ⟨⟩
  constructor <;> rintro rfl <;> revert hc <;> decide

/-- **The texts that are read** as floating-point numbers are those of the grammar. -/
theorem exists_read?_iff {text : String} :
    (∃ x, read? text = some x) ↔ Numeral text.toList := by
  rw [read?_eq, exists_unsigned?_iff]
  constructor
  · intro h
    obtain ⟨sign, negative, unsigned, hsplit, hsign, htext⟩ := Quantity.exists_sign text.toList
    rw [hsplit] at h
    rw [htext]
    exact .mk hsign h
  · intro h
    generalize text.toList = chars at h
    cases h with
    | mk hsign h =>
        rw [Quantity.splitSign_append hsign (unsigned_of_unsignedText h)]
        exact h

/-- **The text of an integer** is one of a floating-point number. -/
theorem numeral_of_int? {text : List Char} {n : Int} (h : Digits.int? text = some n) :
    Numeral text := by
  obtain ⟨sign, digits, negative, hsign, hne, hall, rfl, -⟩ := Quantity.int?_eq_some_iff.1 h
  have hdigits := UnsignedText.digits (.whole hne hall) .absent
  rw [List.append_nil] at hdigits
  exact .mk hsign hdigits

/-- A text in lower case is no number if it starts like this. -/
theorem lower_head_of_numeral {text : List Char} (h : Numeral text) :
    ∀ c ∈ text.head?, Text.lower c ≠ 't' ∧ Text.lower c ≠ 'f' := by
  cases h with
  | mk hsign h =>
      cases hsign with
      | plus | minus =>
          rintro c ⟨⟩
          decide
      | absent =>
          obtain ⟨c, rest, rfl, hc⟩ := head_of_unsignedText h
          rintro c ⟨⟩
          rcases hc with hc | hc | hc
          · rw [hc]
            decide
          · rw [hc]
            decide
          · rw [lower_of_isNumeral hc]
            constructor <;> rintro rfl <;> cases hc

end Extended

end Binary64

end ScaleMetrics
