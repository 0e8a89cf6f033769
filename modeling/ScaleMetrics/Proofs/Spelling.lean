import ScaleMetrics.Proofs.Outcome
import ScaleMetrics.Quantity

/-!
# Proofs — Spelling

How quantities are spelled: a sign or none, digits with at most one point, and a suffix.  The parts
of a spelling are given by relations between a text and what it says (`SignText`, `NumberText`,
`SuffixText`), and a text spells a quantity when it is such parts in a row (`Spells`).

* `ofSuffix?_eq_some_iff`: the suffixes that are known are those of the grammar, but for one
  exponent (`LeastSuffix`).
* `Spells.ofChars_eq`: a text that spells a quantity is read as what it spells, unless its digits
  are too many.
* `spells_of_ofChars`: what is read was spelled, but for a text with this exponent.
-/

namespace ScaleMetrics.Quantity

/-! ### The grammar -/

/-- Decimal digits and nothing else. -/
def AllDigits (text : List Char) : Prop :=
  ∀ c ∈ text, c.isDigit = true

instance (text : List Char) : Decidable (AllDigits text) :=
  decidable_of_iff (text.all Char.isDigit = true) List.all_eq_true

/-- A sign or none, and whether it is the minus. -/
inductive SignText : List Char → Bool → Prop where
  | absent : SignText [] false
  | plus : SignText ['+'] false
  | minus : SignText ['-'] true

/-- Digits with at most one point, and the digits on either side of it. -/
inductive NumberText : List Char → List Char → List Char → Prop where
  | whole {whole : List Char} : whole ≠ [] → AllDigits whole → NumberText whole whole []
  | pointed {whole fraction : List Char} : whole ++ fraction ≠ [] → AllDigits (whole ++ fraction) →
      NumberText (whole ++ '.' :: fraction) whole fraction

/-- The suffixes that are words, and what they multiply by. -/
def symbols : List (List Char × Multiplier) :=
  [([], .decimal 0), (['m'], .decimal (-3)), (['k'], .decimal 3), (['M'], .decimal 6),
    (['G'], .decimal 9), (['T'], .decimal 12), (['P'], .decimal 15), (['E'], .decimal 18),
    (['K', 'i'], .binary 10), (['M', 'i'], .binary 20), (['G', 'i'], .binary 30),
    (['T', 'i'], .binary 40), (['P', 'i'], .binary 50), (['E', 'i'], .binary 60)]

/-- The number that digits stand for, with a sign. -/
def signed (negative : Bool) (n : Nat) : Int :=
  if negative then -n else n

/-- A suffix, and what it multiplies by. -/
inductive SuffixText : List Char → Multiplier → Prop where
  | symbol {symbol : List Char} {multiplier : Multiplier} : (symbol, multiplier) ∈ symbols →
      SuffixText symbol multiplier
  | exponent {mark : Char} {sign digits : List Char} {negative : Bool} :
      mark = 'e' ∨ mark = 'E' → SignText sign negative → digits ≠ [] → AllDigits digits →
      Digits.value digits ≤ 36 →
      SuffixText (mark :: (sign ++ digits)) (.decimal (signed negative (Digits.value digits)))

/-- A quantity as it is spelled. -/
structure Spelling where
  negative : Bool
  /-- The digits in front of the point. -/
  whole : List Char
  /-- The digits behind the point. -/
  fraction : List Char
  multiplier : Multiplier

namespace Spelling

/-- The digits, read as one integer. -/
def digits (s : Spelling) : Nat :=
  Digits.value (s.whole ++ s.fraction)

/-- What is read of the spelling. -/
def literal (s : Spelling) : Literal :=
  ⟨s.negative, s.digits, s.fraction.length, s.multiplier⟩

theorem places_literal (s : Spelling) : s.literal.places = s.fraction.length :=
  rfl

end Spelling

/-- The text spells the quantity. -/
inductive Spells : List Char → Spelling → Prop where
  | mk {sign number suffix whole fraction : List Char} {negative : Bool} {multiplier : Multiplier} :
      SignText sign negative → NumberText number whole fraction → SuffixText suffix multiplier →
      Spells (sign ++ (number ++ suffix)) ⟨negative, whole, fraction, multiplier⟩

/-! ### Numerals -/

theorem nat?_eq_some_iff {text : List Char} {n : Nat} :
    Digits.nat? text = some n ↔ text ≠ [] ∧ AllDigits text ∧ n = Digits.value text := by
  rw [Digits.nat?]
  split
  · next h =>
    simp only [Bool.or_eq_true, List.isEmpty_iff, Bool.not_eq_eq_eq_not, Bool.not_true,
      List.all_eq_false] at h
    constructor
    · intro hnone
      cases hnone
    · rintro ⟨hne, hall, -⟩
      rcases h with rfl | ⟨c, hmem, hc⟩
      · exact absurd rfl hne
      · exact absurd (hall c hmem) hc
  · next h =>
    simp only [Bool.or_eq_true, List.isEmpty_iff, Bool.not_eq_eq_eq_not, Bool.not_true, not_or,
      Bool.not_eq_false, List.all_eq_true] at h
    rw [Option.some.injEq, eq_comm]
    exact ⟨fun hn => ⟨h.1, h.2, hn⟩, fun hn => hn.2.2⟩

theorem ne_sign_of_isDigit {c : Char} (h : c.isDigit = true) : c ≠ '-' ∧ c ≠ '+' ∧ c ≠ '.' := by
  refine ⟨?_, ?_, ?_⟩ <;> rintro rfl <;> cases h

theorem int?_of_digits {digits : List Char} (h : AllDigits digits) :
    Digits.int? digits = (Digits.nat? digits).map Int.ofNat := by
  rw [Digits.int?]
  · rintro rest rfl
    exact (ne_sign_of_isDigit (h '-' List.mem_cons_self)).1 rfl
  · rintro rest rfl
    exact (ne_sign_of_isDigit (h '+' List.mem_cons_self)).2.1 rfl

theorem int?_eq_some_iff {text : List Char} {e : Int} :
    Digits.int? text = some e ↔
      ∃ sign digits negative, SignText sign negative ∧ digits ≠ [] ∧ AllDigits digits ∧
        text = sign ++ digits ∧ e = signed negative (Digits.value digits) := by
  constructor
  · intro h
    unfold Digits.int? at h
    split at h
    · next digits =>
      obtain ⟨n, hn, rfl⟩ := Option.map_eq_some_iff.1 h
      obtain ⟨k, hk, hkn⟩ := Option.bind_eq_some_iff.1 hn
      obtain ⟨hne, hall, rfl⟩ := nat?_eq_some_iff.1 hk
      obtain rfl := Option.some.inj hkn
      exact ⟨['-'], digits, true, .minus, hne, hall, rfl, rfl⟩
    · next digits =>
      obtain ⟨n, hn, rfl⟩ := Option.map_eq_some_iff.1 h
      obtain ⟨hne, hall, rfl⟩ := nat?_eq_some_iff.1 hn
      exact ⟨['+'], digits, false, .plus, hne, hall, rfl, rfl⟩
    · obtain ⟨n, hn, rfl⟩ := Option.map_eq_some_iff.1 h
      obtain ⟨hne, hall, rfl⟩ := nat?_eq_some_iff.1 hn
      exact ⟨[], text, false, .absent, hne, hall, rfl, rfl⟩
  · rintro ⟨sign, digits, negative, hsign, hne, hall, rfl, rfl⟩
    have hnat : Digits.nat? digits = some (Digits.value digits) :=
      nat?_eq_some_iff.2 ⟨hne, hall, rfl⟩
    cases hsign with
    | absent => rw [List.nil_append, int?_of_digits hall, hnat]; rfl
    | plus => rw [List.singleton_append, Digits.int?, hnat]; rfl
    | minus => rw [List.singleton_append, Digits.int?, hnat]; rfl

/-! ### Suffixes -/

/-- The suffix is the least exponent of 32 bits, whose absolute value they do not hold. -/
def LeastSuffix (suffix : List Char) : Prop :=
  (suffix.head? = some 'e' ∨ suffix.head? = some 'E') ∧
    Digits.int? suffix.tail = some (-0x80000000)

instance (suffix : List Char) : Decidable (LeastSuffix suffix) :=
  inferInstanceAs (Decidable (_ ∧ _))

/-- The suffix of the text is the least exponent. -/
def LeastExponent (text : List Char) : Prop :=
  LeastSuffix ((splitSign text).2.dropWhile isNumeral)

instance (text : List Char) : Decidable (LeastExponent text) :=
  inferInstanceAs (Decidable (LeastSuffix _))

theorem leastSuffix_of_mark {mark : Char} {exponent : List Char} (h : mark = 'e' ∨ mark = 'E')
    (hleast : Digits.int? exponent = some (-0x80000000)) : LeastSuffix (mark :: exponent) :=
  ⟨h.imp (congrArg some) (congrArg some), hleast⟩

theorem natAbs_signed (negative : Bool) (n : Nat) : (signed negative n).natAbs = n := by
  cases negative <;> simp [signed]

/-- The limit of exponents, but for the least one. -/
theorem within_limit_iff {e : Int} (h : e ≠ -0x80000000) :
    low32 e = e ∧ low32 e.natAbs ≤ exponentLimit ↔ e.natAbs ≤ 36 := by
  constructor
  · rintro ⟨hheld, hle⟩
    have hlow := Int.le_bmod (x := e) (m := 0x100000000) (by decide)
    have hhigh := Int.bmod_lt (x := e) (m := 0x100000000) (by decide)
    rw [low32] at hheld
    rw [hheld] at hlow hhigh
    rw [low32_of_held (by omega), exponentLimit] at hle
    omega
  · intro hle
    rw [low32_of_held (by omega), low32_of_held (by omega), exponentLimit]
    omega

theorem ofExponent?_eq_some_iff {text : List Char} {m : Multiplier}
    (hleast : Digits.int? text ≠ some (-0x80000000)) :
    Multiplier.ofExponent? text = some m ↔
      ∃ sign digits negative, SignText sign negative ∧ digits ≠ [] ∧ AllDigits digits ∧
        Digits.value digits ≤ 36 ∧ text = sign ++ digits ∧
          m = .decimal (signed negative (Digits.value digits)) := by
  rw [Multiplier.ofExponent?]
  cases hint : Digits.int? text with
  | none =>
      constructor
      · intro h
        cases h
      · rintro ⟨sign, digits, negative, hsign, hne, hall, -, rfl, -⟩
        rw [int?_eq_some_iff.2 ⟨sign, digits, negative, hsign, hne, hall, rfl, rfl⟩] at hint
        cases hint
  | some e =>
      have hheld : e ≠ -0x80000000 := fun he => hleast (hint.trans (congrArg some he))
      simp only [within_limit_iff hheld]
      constructor
      · intro h
        split at h
        · next hle =>
          obtain ⟨sign, digits, negative, hsign, hne, hall, rfl, rfl⟩ := int?_eq_some_iff.1 hint
          rw [natAbs_signed] at hle
          exact ⟨sign, digits, negative, hsign, hne, hall, hle, rfl, (Option.some.inj h).symm⟩
        · cases h
      · rintro ⟨sign, digits, negative, hsign, hne, hall, hle, rfl, rfl⟩
        rw [int?_eq_some_iff.2 ⟨sign, digits, negative, hsign, hne, hall, rfl, rfl⟩] at hint
        obtain rfl := Option.some.inj hint
        exact if_pos (by rwa [natAbs_signed])

theorem ofSuffix?_of_symbol {symbol : List Char} {m : Multiplier} (h : (symbol, m) ∈ symbols) :
    Multiplier.ofSuffix? symbol = some m := by
  have hall : ∀ entry ∈ symbols, Multiplier.ofSuffix? entry.1 = some entry.2 := by decide
  exact hall _ h

theorem ofSuffix?_of_mark {mark : Char} {text : List Char} (h : mark = 'e' ∨ mark = 'E')
    (hne : text ≠ []) (hbinary : text ≠ ['i']) :
    Multiplier.ofSuffix? (mark :: text) = Multiplier.ofExponent? text := by
  rcases h with rfl | rfl
  · rw [Multiplier.ofSuffix?]
  · rw [Multiplier.ofSuffix?]
    · exact hne
    · exact hbinary

/-- The characters of an exponent are a sign and digits, so none of them is a letter. -/
theorem exponent_ne_binary {sign digits : List Char} {negative : Bool}
    (hsign : SignText sign negative) (hne : digits ≠ []) (hall : AllDigits digits) :
    sign ++ digits ≠ ['i'] := by
  intro h
  obtain ⟨c, rest, rfl⟩ := List.exists_cons_of_ne_nil hne
  cases hsign with
  | absent =>
      cases h
      exact absurd (hall 'i' List.mem_cons_self) (by decide)
  | plus | minus => cases h

/-- An exponent of the grammar is within the limit. -/
theorem int?_exponent {sign digits : List Char} {negative : Bool} (hsign : SignText sign negative)
    (hne : digits ≠ []) (hall : AllDigits digits) (hle : Digits.value digits ≤ 36) :
    Digits.int? (sign ++ digits) ≠ some (-0x80000000) := by
  rw [int?_eq_some_iff.2 ⟨sign, digits, negative, hsign, hne, hall, rfl, rfl⟩]
  intro h
  have hsize := natAbs_signed negative (Digits.value digits)
  rw [Option.some.inj h] at hsize
  omega

theorem SuffixText.not_least {suffix : List Char} {m : Multiplier} (h : SuffixText suffix m) :
    ¬ LeastSuffix suffix := by
  cases h with
  | symbol h =>
      have hall : ∀ entry ∈ symbols, ¬ LeastSuffix entry.1 := by decide
      exact hall _ h
  | exponent _ hsign hne hall hle => exact fun h => int?_exponent hsign hne hall hle h.2

theorem SuffixText.ofSuffix?_eq {suffix : List Char} {m : Multiplier} (h : SuffixText suffix m) :
    Multiplier.ofSuffix? suffix = some m := by
  cases h with
  | symbol h => exact ofSuffix?_of_symbol h
  | @exponent mark sign digits negative hmark hsign hne hall hle =>
      rw [ofSuffix?_of_mark hmark (by simp [hne]) (exponent_ne_binary hsign hne hall)]
      exact (ofExponent?_eq_some_iff (int?_exponent hsign hne hall hle)).2
        ⟨sign, digits, negative, hsign, hne, hall, hle, rfl, rfl⟩

/-- **The suffixes that are known** are those of the grammar, but for the least exponent. -/
theorem ofSuffix?_eq_some_iff {text : List Char} {m : Multiplier} (hleast : ¬ LeastSuffix text) :
    Multiplier.ofSuffix? text = some m ↔ SuffixText text m := by
  refine ⟨fun h => ?_, SuffixText.ofSuffix?_eq⟩
  unfold Multiplier.ofSuffix? at h
  split at h
  case h_15 exponent =>
    obtain ⟨sign, digits, negative, hsign, hne, hall, hle, rfl, rfl⟩ :=
      (ofExponent?_eq_some_iff fun h => hleast (leastSuffix_of_mark (.inl rfl) h)).1 h
    exact .exponent (.inl rfl) hsign hne hall hle
  case h_16 exponent _ _ =>
    obtain ⟨sign, digits, negative, hsign, hne, hall, hle, rfl, rfl⟩ :=
      (ofExponent?_eq_some_iff fun h => hleast (leastSuffix_of_mark (.inr rfl) h)).1 h
    exact .exponent (.inr rfl) hsign hne hall hle
  case h_17 => cases h
  all_goals
    cases h
    exact .symbol (by decide)

/-- A suffix does not go on with the number. -/
theorem SuffixText.head {suffix : List Char} {m : Multiplier} (h : SuffixText suffix m) :
    ∀ c ∈ suffix.head?, isNumeral c = false := by
  cases h with
  | symbol h =>
      have hall : ∀ entry ∈ symbols, entry.1.head?.all (fun c => !isNumeral c) = true := by decide
      intro c hc
      simpa [Option.mem_def.1 hc] using hall _ h
  | exponent hmark =>
      rintro c ⟨⟩
      rcases hmark with rfl | rfl <;> rfl

/-! ### Signs -/

/-- The text does not start with a sign. -/
def Unsigned (text : List Char) : Prop :=
  ∀ c ∈ text.head?, c ≠ '-' ∧ c ≠ '+'

theorem splitSign_append {sign rest : List Char} {negative : Bool} (h : SignText sign negative)
    (hrest : Unsigned rest) : splitSign (sign ++ rest) = (negative, rest) := by
  cases h with
  | absent =>
      rw [List.nil_append, splitSign]
      · rintro tail rfl
        exact (hrest '-' rfl).1 rfl
      · rintro tail rfl
        exact (hrest '+' rfl).2 rfl
  | plus => rfl
  | minus => rfl

theorem exists_sign (text : List Char) :
    ∃ sign negative unsigned, splitSign text = (negative, unsigned) ∧ SignText sign negative ∧
      text = sign ++ unsigned := by
  unfold splitSign
  split
  · next rest => exact ⟨['-'], true, rest, rfl, .minus, rfl⟩
  · next rest => exact ⟨['+'], false, rest, rfl, .plus, rfl⟩
  · exact ⟨[], false, text, rfl, .absent, rfl⟩

/-! ### Numbers -/

theorem isNumeral_of_isDigit {c : Char} (h : c.isDigit = true) : isNumeral c = true := by
  rw [isNumeral, h, Bool.true_or]

namespace NumberText

variable {number whole fraction : List Char}

theorem allDigits (h : NumberText number whole fraction) : AllDigits (whole ++ fraction) := by
  cases h with
  | whole _ hall => rwa [List.append_nil]
  | pointed _ hall => exact hall

theorem isNumeral (h : NumberText number whole fraction) : ∀ c ∈ number, isNumeral c = true := by
  intro c hmem
  cases h with
  | whole _ hall => exact isNumeral_of_isDigit (hall c hmem)
  | pointed _ hall =>
      rcases List.mem_append.1 hmem with hmem | hmem
      · exact isNumeral_of_isDigit (hall c (List.mem_append_left _ hmem))
      · rcases List.mem_cons.1 hmem with rfl | hmem
        · rfl
        · exact isNumeral_of_isDigit (hall c (List.mem_append_right _ hmem))

theorem ne_nil (h : NumberText number whole fraction) : number ≠ [] := by
  cases h with
  | whole hne _ => exact hne
  | pointed _ _ => simp

theorem digits_ne_nil (h : NumberText number whole fraction) : whole ++ fraction ≠ [] := by
  cases h with
  | whole hne _ => rwa [List.append_nil]
  | pointed hne _ => exact hne

theorem ne_point (h : NumberText number whole fraction) : ∀ c ∈ whole ++ fraction, c ≠ '.' :=
  fun c hmem => (ne_sign_of_isDigit (h.allDigits c hmem)).2.2

/-- The point is found where it stands. -/
theorem split (h : NumberText number whole fraction) :
    number.takeWhile (· != '.') = whole ∧ (number.dropWhile (· != '.')).drop 1 = fraction := by
  have hpoint : ∀ c ∈ whole, (c != '.') = true := fun c hmem => by
    simpa using h.ne_point c (List.mem_append_left _ hmem)
  cases h with
  | whole =>
      rw [List.takeWhile_eq_self_iff.2 hpoint, List.dropWhile_eq_nil_iff.2 hpoint]
      exact ⟨rfl, rfl⟩
  | pointed =>
      rw [List.takeWhile_append_of_pos hpoint, List.dropWhile_append_of_pos hpoint]
      simp

end NumberText

/-- The reading of a text whose parts are these. -/
theorem ofChars_of_parts {text unsigned number suffix whole fraction : List Char} {negative : Bool}
    (hne : text ≠ []) (hsign : splitSign text = (negative, unsigned))
    (hnumber : unsigned.takeWhile isNumeral = number)
    (hsuffix : unsigned.dropWhile isNumeral = suffix)
    (hwhole : number.takeWhile (· != '.') = whole)
    (hfraction : (number.dropWhile (· != '.')).drop 1 = fraction) :
    Literal.ofChars text =
      if whole = [] ∧ fraction = [] then .error .missingDigits
      else if '.' ∈ fraction then .error .manyPoints
      else if magnitudeBound ≤ Digits.value (whole ++ fraction) then .error .tooManyDigits
      else (Multiplier.ofSuffix? suffix).elim (.error (.unknownSuffix (String.ofList suffix)))
        fun multiplier => .ok
          ⟨negative, Digits.value (whole ++ fraction), fraction.length, multiplier⟩ := by
  subst hnumber hsuffix hwhole hfraction
  simp only [Literal.ofChars, hsign, List.isEmpty_iff, hne, if_false, Bool.and_eq_true,
    List.contains_iff_mem]
  split
  · rfl
  · split
    · rfl
    · split
      · rfl
      · cases Multiplier.ofSuffix? (unsigned.dropWhile isNumeral) <;> rfl

/-- The parts of a text that spells a quantity are found where they stand. -/
theorem Spells.exists_parts {text : List Char} {s : Spelling} (h : Spells text s) :
    text ≠ [] ∧ ∃ number suffix, splitSign text = (s.negative, number ++ suffix) ∧
      NumberText number s.whole s.fraction ∧ SuffixText suffix s.multiplier ∧
        (number ++ suffix).takeWhile isNumeral = number ∧
          (number ++ suffix).dropWhile isNumeral = suffix := by
  cases h with
  | @mk sign number suffix whole fraction negative multiplier hsign hnumber hsuffix =>
      have hend : suffix.takeWhile isNumeral = [] ∧ suffix.dropWhile isNumeral = suffix := by
        cases suffix with
        | nil => exact ⟨rfl, rfl⟩
        | cons c rest => simp [hsuffix.head c rfl]
      have hunsigned : Unsigned (number ++ suffix) := by
        obtain ⟨c, rest, hcons⟩ := List.exists_cons_of_ne_nil hnumber.ne_nil
        rw [hcons]
        rintro c ⟨⟩
        have hc := hnumber.isNumeral c (by simp [hcons])
        constructor <;> rintro rfl <;> cases hc
      refine ⟨by simp [hnumber.ne_nil], number, suffix, splitSign_append hsign hunsigned, hnumber,
        hsuffix, ?_, ?_⟩
      · rw [List.takeWhile_append_of_pos hnumber.isNumeral, hend.1, List.append_nil]
      · rw [List.dropWhile_append_of_pos hnumber.isNumeral, hend.2]

/-- **A text that spells a quantity** is read as what it spells, unless its digits are too many. -/
theorem Spells.ofChars_eq {text : List Char} {s : Spelling} (h : Spells text s) :
    Literal.ofChars text =
      if magnitudeBound ≤ s.digits then .error .tooManyDigits else .ok s.literal := by
  obtain ⟨hne, number, suffix, hsign, hnumber, hsuffix, htake, hdrop⟩ := h.exists_parts
  obtain ⟨hwhole, hfraction⟩ := hnumber.split
  rw [ofChars_of_parts hne hsign htake hdrop hwhole hfraction,
    if_neg fun hnil => hnumber.digits_ne_nil (List.append_eq_nil_iff.2 hnil),
    if_neg fun hmem => hnumber.ne_point '.' (List.mem_append_right _ hmem) rfl,
    hsuffix.ofSuffix?_eq]
  rfl

theorem Spells.not_leastExponent {text : List Char} {s : Spelling} (h : Spells text s) :
    ¬ LeastExponent text := by
  obtain ⟨-, number, suffix, hsign, -, hsuffix, -, hdrop⟩ := h.exists_parts
  rw [LeastExponent, hsign]
  dsimp only
  rw [hdrop]
  exact hsuffix.not_least

/-- What is spelled has no blanks in it. -/
theorem Spells.not_blank {text : List Char} {s : Spelling} (h : Spells text s) :
    ∀ c ∈ text, Text.isBlank c = false := by
  have hsign {sign : List Char} {negative : Bool} (h : SignText sign negative) :
      ∀ c ∈ sign, Text.isBlank c = false := by
    cases h with
    | absent => exact List.forall_mem_nil _
    | plus | minus => exact List.forall_mem_singleton.2 (by decide)
  have hnumeral {c : Char} (h : isNumeral c = true) : Text.isBlank c = false := by
    rcases Bool.or_eq_true_iff.1 h with hdigit | hpoint
    · exact Text.isBlank_of_isDigit hdigit
    · rw [beq_iff_eq.1 hpoint]
      decide
  cases h with
  | mk hs hnumber hsuffix =>
      intro c hmem
      rcases List.mem_append.1 hmem with hmem | hmem
      · exact hsign hs c hmem
      rcases List.mem_append.1 hmem with hmem | hmem
      · exact hnumeral (hnumber.isNumeral c hmem)
      cases hsuffix with
      | symbol hsymbol =>
          have hall : ∀ entry ∈ symbols, entry.1.all (fun c => !Text.isBlank c) = true := by decide
          simpa using List.all_eq_true.1 (hall _ hsymbol) c hmem
      | exponent hmark hs _ hdigits _ =>
          rcases List.mem_cons.1 hmem with rfl | hmem
          · rcases hmark with rfl | rfl <;> decide
          rcases List.mem_append.1 hmem with hmem | hmem
          · exact hsign hs c hmem
          · exact Text.isBlank_of_isDigit (hdigits c hmem)

theorem Spells.trim_eq_self {text : List Char} {s : Spelling} (h : Spells text s) :
    Text.trim text = text :=
  Text.trim_eq_self h.not_blank

/-! ### Lengths -/

theorem length_toList_le (text : String) : text.toList.length ≤ text.utf8ByteSize := by
  rw [← String.ofList_toList (s := text), String.utf8ByteSize_ofList, String.toList_ofList]
  induction text.toList with
  | nil => exact le_rfl
  | cons c rest ih =>
      rw [String.utf8Len_cons, List.length_cons]
      exact Nat.add_le_add ih c.utf8Size_pos

theorem length_trim_le (text : String) : (Text.trim text.toList).length ≤ text.utf8ByteSize := by
  refine le_trans ?_ (length_toList_le text)
  simp only [Text.trim, Text.trimStart, List.length_reverse]
  refine (List.length_dropWhile_le _ _).trans ?_
  rw [List.length_reverse]
  exact List.length_dropWhile_le _ _

theorem NumberText.length_le {number whole fraction : List Char}
    (h : NumberText number whole fraction) : fraction.length + 1 ≤ number.length := by
  cases h with
  | whole hne _ => exact List.length_pos_iff.2 hne
  | pointed _ _ =>
      rw [List.length_append, List.length_cons]
      omega

/-- A text is longer than the fraction that it spells. -/
theorem Spells.length_lt {text : String} {s : Spelling} (h : Spells (Text.trim text.toList) s) :
    s.fraction.length < text.utf8ByteSize := by
  have htrim := length_trim_le text
  generalize Text.trim text.toList = trimmed at *
  cases h with
  | mk _ hnumber _ =>
      have hle := hnumber.length_le
      simp only [List.length_append] at htrim ⊢
      omega

end ScaleMetrics.Quantity
