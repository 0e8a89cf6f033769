import ScaleMetrics.Json.Printer
import ScaleMetrics.Json.Reader
import ScaleMetrics.Proofs.Leaves
import ScaleMetrics.Proofs.Numerals

/-!
# Proofs — Printed documents

The text of a document is read as the document (`read?_render`), if every number in it is read back
from its own text, as integers of 64 bits are (`reread?_int`), and nothing in it is broken.

`Reads text document` says that the automaton reads the text as the document wherever a value may
stand, up to a character that no numeral goes on with.  There is one law for each kind of document;
those of containers take their items and members one after the other, from the state behind one of
them to the state behind the next.
-/

namespace ScaleMetrics.Json

variable {stack : List Frame} {document : Json} {text rest : List Char}

theorem run_cons (state : State) (c : Char) (rest : List Char) :
    run state (c :: rest) = (step state c).bind fun state => run state rest :=
  rfl

/-! ### Numerals -/

theorem isNumeralChar_of_isDigit {c : Char} (h : c.isDigit = true) : isNumeralChar c = true := by
  simp [isNumeralChar, h]

theorem isNumeralChar_of_exponent? {e : Option (Bool × List Char)}
    (h : Numeral.exponent? text = some e) : ∀ c ∈ text, isNumeralChar c = true := by
  cases text with
  | nil => exact List.forall_mem_nil _
  | cons mark rest =>
      rw [Numeral.exponent?.eq_def] at h
      dsimp only at h
      split_ifs at h with hmark hdigits
      have hmark : isNumeralChar mark = true := by
        by_cases he : mark = 'e' <;> simp_all [isNumeralChar]
      have hall {digits : List Char} (h : ¬ (digits.isEmpty || !digits.all Char.isDigit) = true) :
          ∀ c ∈ digits, isNumeralChar c = true :=
        fun c hc => isNumeralChar_of_isDigit (by simp_all)
      refine List.forall_mem_cons.2 ⟨hmark, ?_⟩
      split at hdigits
      · exact List.forall_mem_cons.2 ⟨rfl, hall hdigits⟩
      · exact List.forall_mem_cons.2 ⟨rfl, hall hdigits⟩
      · exact hall hdigits

theorem isNumeralChar_of_dropWhile
    (h : ∀ c ∈ text.dropWhile Char.isDigit, isNumeralChar c = true) :
    ∀ c ∈ text, isNumeralChar c = true := by
  rw [← List.takeWhile_append_dropWhile (p := Char.isDigit) (l := text)]
  exact List.forall_mem_append.2
    ⟨fun c hc => isNumeralChar_of_isDigit (List.mem_takeWhile_imp hc), h⟩

theorem starts_of_unsigned? {negative : Bool} {numeral : Numeral}
    (h : Numeral.unsigned? negative text = some numeral) :
    (∃ c ∈ text.head?, c.isDigit = true) ∧ ∀ c ∈ text, isNumeralChar c = true := by
  obtain ⟨_, hguard, h⟩ := Option.bind_eq_some_iff.1 h
  constructor
  · cases text with
    | nil => simp [guard] at hguard
    | cons c rest =>
        refine ⟨c, rfl, ?_⟩
        by_contra hc
        simp [guard, hc] at hguard
  · refine isNumeralChar_of_dropWhile ?_
    split at h
    · next rest hbehind =>
      rw [hbehind]
      obtain ⟨-, -, h⟩ := Option.bind_eq_some_iff.1 h
      obtain ⟨e, he, -⟩ := Option.bind_eq_some_iff.1 h
      exact List.forall_mem_cons.2
        ⟨rfl, isNumeralChar_of_dropWhile (isNumeralChar_of_exponent? he)⟩
    · obtain ⟨e, he, -⟩ := Option.bind_eq_some_iff.1 h
      exact isNumeralChar_of_exponent? he

/-- A numeral starts with a sign or a digit, and goes on with characters of numerals. -/
theorem starts_of_ofChars? {numeral : Numeral} (h : Numeral.ofChars? text = some numeral) :
    (∃ c ∈ text.head?, c = '-' ∨ c.isDigit = true) ∧ ∀ c ∈ text, isNumeralChar c = true := by
  rw [Numeral.ofChars?.eq_def] at h
  split at h
  · exact ⟨⟨_, rfl, .inl rfl⟩, List.forall_mem_cons.2 ⟨rfl, (starts_of_unsigned? h).2⟩⟩
  · obtain ⟨⟨c, hhead, hdigit⟩, hall⟩ := starts_of_unsigned? h
    exact ⟨⟨c, hhead, .inr hdigit⟩, hall⟩

theorem run_numeral (h : ∀ c ∈ text, isNumeralChar c = true) (done rest : List Char) :
    run (.reading stack (.numeral done)) (text ++ rest) =
      run (.reading stack (.numeral (text.reverse ++ done))) rest := by
  induction text generalizing done with
  | nil => rfl
  | cons c text ih =>
      obtain ⟨hc, htext⟩ := List.forall_mem_cons.1 h
      have hstep : step (.reading stack (.numeral done)) c =
          some (.reading stack (.numeral (c :: done))) := if_pos hc
      rw [List.cons_append, run_cons, hstep, Option.bind_some, ih htext, List.reverse_cons,
        List.append_assoc, List.singleton_append]

/-! ### Texts of documents -/

/-- The text is read as the document wherever a value may stand, up to a character that no numeral
goes on with; and it does not start like a gap or the end of an array. -/
structure Reads (text : List Char) (document : Json) : Prop where
  starts : ∃ c ∈ text.head?, isGap c = false ∧ c ≠ ']'
  run_eq : ∀ stack c rest, isNumeralChar c = false →
    run (.reading stack .value) (text ++ c :: rest) = run (.give stack document) (c :: rest)

/-- A value that is given away has been followed already. -/
theorem step_give (stack : List Frame) (document : Json) (c : Char) :
    step (.give stack document) c = (State.give stack document).follow c := by
  unfold State.give
  split <;> rfl

/-- A numeral is begun by its first character. -/
theorem startValue_numeral {c : Char} (h : c = '-' ∨ c.isDigit = true) (stack : List Frame) :
    isGap c = false ∧ c ≠ ']' ∧ startValue stack c = some (.reading stack (.numeral [c])) := by
  rcases h with rfl | hdigit
  · exact ⟨rfl, by decide, rfl⟩
  · have hne : ∀ mark : Char, mark.isDigit = false → c ≠ mark := by
      rintro mark hmark rfl
      rw [hmark] at hdigit
      cases hdigit
    refine ⟨?_, hne ']' rfl, ?_⟩
    · simp [isGap, hne]
    · simp [startValue, hne, hdigit]

theorem reads_numeral {numeral : Numeral} (h : Numeral.ofChars? text = some numeral) :
    Reads text numeral.document := by
  obtain ⟨⟨first, hhead, hfirst⟩, hall⟩ := starts_of_ofChars? h
  obtain ⟨text, rfl⟩ := List.head?_eq_some_iff.1 hhead
  have hbegin := startValue_numeral hfirst
  refine ⟨⟨first, rfl, (hbegin []).1, (hbegin []).2.1⟩, fun stack c rest hc => ?_⟩
  obtain ⟨hgap, -, hstart⟩ := hbegin stack
  have hstep : step (.reading stack .value) first = some (.reading stack (.numeral [first])) := by
    rw [step, hgap]
    exact hstart
  have hend : step (.reading stack (.numeral (text.reverse ++ [first]))) c =
      step (.give stack numeral.document) c := by
    rw [step_give, step, hc, ← List.reverse_cons, List.reverse_reverse, h]
    rfl
  rw [List.cons_append, run_cons, hstep, Option.bind_some,
    run_numeral (List.forall_mem_cons.1 hall).2, run_cons, hend, run_cons]

theorem run_word (left rest : List Char) :
    run (.reading stack (.word left document)) (left ++ rest) =
      run (.reading stack (.word [] document)) rest := by
  induction left with
  | nil => rfl
  | cons c left ih =>
      have hstep : step (.reading stack (.word (c :: left) document)) c =
          some (.reading stack (.word left document)) := by simp [step]
      rw [List.cons_append, run_cons, hstep, Option.bind_some, ih]

/-- A word is known by its first character. -/
theorem reads_word {first : Char} {left : List Char} (hfirst : isGap first = false ∧ first ≠ ']')
    (hstart : ∀ stack, step (.reading stack .value) first =
      some (.reading stack (.word left document))) : Reads (first :: left) document := by
  refine ⟨⟨first, rfl, hfirst⟩, fun stack c rest _ => ?_⟩
  rw [List.cons_append, run_cons, hstart, Option.bind_some, run_word, run_cons,
    run_cons (.give ..), step_give]
  rfl

theorem reads_null : Reads Json.null.render.toList .null :=
  reads_word (by decide) fun _ => rfl

theorem reads_bool (b : Bool) : Reads (bool b).render.toList (.bool b) := by
  cases b with
  | true => exact reads_word (by decide) fun _ => rfl
  | false => exact reads_word (by decide) fun _ => rfl

/-! ### Strings -/

variable {isKey : Bool} {done : List Char}

/-- A string of which some characters have been read. -/
def OpenText.plain (done : List Char) : OpenText :=
  ⟨done, .none, none, false⟩

theorem run_stringChar (c : Char) (done rest : List Char) :
    run (.reading stack (.text isKey (.plain done))) (stringChar c ++ rest) =
      run (.reading stack (.text isKey (.plain (c :: done)))) rest := by
  by_cases hcontrol : c.toNat < 0x20
  · obtain ⟨n, hn, rfl⟩ : ∃ n < 32, Char.ofNat n = c := ⟨c.toNat, hcontrol, Char.ofNat_toNat c⟩
    interval_cases n <;> rfl
  · unfold stringChar
    split
    · rfl
    · rfl
    · rfl
    · rfl
    · rfl
    · rfl
    · rfl
    · next hquote hslash _ _ _ _ _ =>
      rw [if_neg hcontrol, List.singleton_append, run_cons]
      have hstep : step (.reading stack (.text isKey (.plain done))) c =
          some (.reading stack (.text isKey (.plain (c :: done)))) := by
        have h1 : c ≠ '"' := hquote
        have h2 : c ≠ '\\' := hslash
        simp [step, stepText, OpenText.plain, h1, h2, hcontrol, OpenText.push]
      rw [hstep, Option.bind_some]

theorem run_stringChars (text done rest : List Char) :
    run (.reading stack (.text isKey (.plain done))) (text.flatMap stringChar ++ rest) =
      run (.reading stack (.text isKey (.plain (text.reverse ++ done)))) rest := by
  induction text generalizing done with
  | nil => rfl
  | cons c text ih =>
      rw [List.flatMap_cons, List.append_assoc, run_stringChar, ih, List.reverse_cons,
        List.append_assoc, List.singleton_append]

theorem toList_renderString (s : String) :
    (renderString s).toList = '"' :: (s.toList.flatMap stringChar ++ ['"']) := by
  rw [renderString, String.toList_ofList]
  rfl

theorem ofList_reverse_reverse (s : String) :
    String.ofList (s.toList.reverse ++ []).reverse = s := by
  rw [List.append_nil, List.reverse_reverse, String.ofList_toList]

theorem reads_string (s : String) : Reads (renderString s).toList (.string s) := by
  rw [toList_renderString]
  refine ⟨⟨_, rfl, by decide⟩, fun stack c rest _ => ?_⟩
  have hend : step (.reading stack (.text false (.plain (s.toList.reverse ++ [])))) '"' =
      some (.give stack (.string s)) := by
    change some (State.give stack (.string (String.ofList (s.toList.reverse ++ []).reverse))) = _
    rw [ofList_reverse_reverse]
  have hbegin : step (.reading stack .value) '"' =
    some (.reading stack (.text false (.plain []))) := rfl
  rw [List.cons_append, List.append_assoc, run_cons, hbegin, Option.bind_some, run_stringChars,
    List.singleton_append, run_cons, hend, Option.bind_some]

/-- A key is read up to its colon. -/
theorem run_key (s : String) (done : List (String × Json)) (key : Option String) (bad : Bool)
    (rest : List Char) :
    run (.reading (.members done key bad :: stack) .key) ((renderString s).toList ++ ':' :: rest) =
      run (.reading (.members done (some s) bad :: stack) .value) rest := by
  have hend : step (.reading (.members done key bad :: stack)
      (.text true (.plain (s.toList.reverse ++ [])))) '"' =
      some (.reading (.members done (some s) bad :: stack) .colon) := by
    change some (State.reading (.members done
      (some (String.ofList (s.toList.reverse ++ []).reverse)) bad :: stack) .colon) = _
    rw [ofList_reverse_reverse]
  have hbegin : step (.reading (.members done key bad :: stack) .key) '"' =
    some (.reading (.members done key bad :: stack) (.text true (.plain []))) := rfl
  have hcolon : step (.reading (.members done (some s) bad :: stack) .colon) ':' =
    some (.reading (.members done (some s) bad :: stack) .value) := rfl
  rw [toList_renderString, List.cons_append, List.append_assoc, run_cons, hbegin, Option.bind_some,
    run_stringChars, List.singleton_append, run_cons, hend, Option.bind_some, run_cons, hcolon,
    Option.bind_some]

/-! ### Containers -/

/-- A first item is read as any other value. -/
theorem Reads.run_firstItem (h : Reads text document) (stack : List Frame) {c : Char}
    (hc : isNumeralChar c = false) (rest : List Char) :
    run (.reading (.items [] :: stack) .firstItem) (text ++ c :: rest) =
      run (.reading (.items [document] :: stack) .next) (c :: rest) := by
  obtain ⟨first, hhead, hgap, hend⟩ := h.starts
  obtain ⟨text, rfl⟩ := List.head?_eq_some_iff.1 hhead
  have hstep : step (.reading (.items [] :: stack) .firstItem) first =
      step (.reading (.items [] :: stack) .value) first := by
    simp [step, hgap, hend]
  rw [List.cons_append, run_cons, hstep, ← run_cons, ← List.cons_append, h.run_eq _ _ _ hc]
  rfl

theorem intercalate_cons_eq (first : List Char) (rest : List (List Char)) :
    [','].intercalate (first :: rest) = first ++ rest.flatMap (',' :: ·) := by
  induction rest generalizing first with
  | nil => simp [List.intercalate]
  | cons second rest ih =>
      rw [List.intercalate_cons_cons, ih, List.flatMap_cons]
      simp

/-- What comes behind an item or a member is a comma or the end. -/
theorem exists_cons_of_parts {close : Char} (hclose : isNumeralChar close = false)
    (parts : List (List Char)) (rest : List Char) :
    ∃ c behind, parts.flatMap (',' :: ·) ++ close :: rest = c :: behind ∧
      isNumeralChar c = false := by
  cases parts with
  | nil => exact ⟨close, rest, rfl, hclose⟩
  | cons part parts => exact ⟨',', _, rfl, rfl⟩

theorem renderItems_eq_map (items : List Json) : renderItems items = items.map render := by
  induction items with
  | nil => rfl
  | cons item rest ih => rw [renderItems, List.map_cons, ih]

/-- **Items behind the first one.** -/
theorem run_items {items : List Json} (h : ∀ item ∈ items, Reads item.render.toList item)
    (done : List Json) (rest : List Char) :
    run (.reading (.items done :: stack) .next)
        ((items.map fun item => item.render.toList).flatMap (',' :: ·) ++ ']' :: rest) =
      run (.give stack (.array (done.reverse ++ items))) rest := by
  induction items generalizing done with
  | nil =>
      rw [List.append_nil]
      rfl
  | cons item items ih =>
      obtain ⟨hitem, hitems⟩ := List.forall_mem_cons.1 h
      obtain ⟨c, behind, hbehind, hc⟩ :=
        exists_cons_of_parts (show isNumeralChar ']' = false from rfl)
          (items.map fun item => item.render.toList) rest
      have hcomma : step (.reading (.items done :: stack) .next) ',' =
        some (.reading (.items done :: stack) .value) := rfl
      have hnext : State.give (.items done :: stack) item =
        .reading (.items (item :: done) :: stack) .next := rfl
      rw [List.map_cons, List.flatMap_cons, List.append_assoc, List.cons_append, run_cons, hcomma,
        Option.bind_some, hbehind, hitem.run_eq _ _ _ hc, hnext, ← hbehind, ih hitems,
        List.reverse_cons, List.append_assoc, List.singleton_append]

theorem reads_array {items : List Json} (h : ∀ item ∈ items, Reads item.render.toList item) :
    Reads (array items).render.toList (.array items) := by
  have hopen (stack : List Frame) : step (.reading stack .value) '[' =
    some (.reading (.items [] :: stack) .firstItem) := rfl
  rw [render, renderItems_eq_map, String.toList_append, String.toList_append,
    String.toList_intercalate]
  refine ⟨⟨_, rfl, by decide⟩, fun stack c rest _ => ?_⟩
  cases items with
  | nil => rfl
  | cons item items =>
      obtain ⟨hitem, hitems⟩ := List.forall_mem_cons.1 h
      obtain ⟨d, behind, hbehind, hd⟩ :=
        exists_cons_of_parts (show isNumeralChar ']' = false from rfl)
          (items.map fun item => item.render.toList) (c :: rest)
      have htext :
          "[".toList ++ [','].intercalate (((item :: items).map render).map String.toList) ++
            "]".toList ++ c :: rest =
          '[' :: (item.render.toList ++
            ((items.map fun item => item.render.toList).flatMap (',' :: ·) ++
              ']' :: c :: rest)) := by
        rw [List.map_map, List.map_cons, intercalate_cons_eq]
        simp [Function.comp_def]
      rw [show ",".toList = [','] from rfl, htext, run_cons, hopen, Option.bind_some, hbehind,
        hitem.run_firstItem _ hd, ← hbehind, run_items hitems]
      rfl

/-- The text of a member. -/
def memberText (member : String × Json) : List Char :=
  (renderString member.1).toList ++ ':' :: member.2.render.toList

theorem renderMembers_eq_map (members : List (String × Json)) :
    (renderMembers members).map String.toList = members.map memberText := by
  induction members with
  | nil => rfl
  | cons member rest ih =>
      rw [renderMembers, List.map_cons, List.map_cons, ih, String.toList_append,
        String.toList_append, memberText, List.append_assoc]
      rfl

/-- One member, up to the state behind it. -/
theorem run_member {key : String} {value : Json} (h : Reads value.render.toList value)
    (done : List (String × Json)) {c : Char} (hc : isNumeralChar c = false) (rest : List Char) :
    run (.reading (.members done none false :: stack) .key)
        (memberText (key, value) ++ c :: rest) =
      run (.reading (.members ((key, value) :: done) none false :: stack) .next) (c :: rest) := by
  rw [memberText, List.append_assoc, List.cons_append, run_key, h.run_eq _ _ _ hc]
  rfl

/-- A first member is read as any other. -/
theorem run_firstKey (member : String × Json) (stack : List Frame) (rest : List Char) :
    run (.reading (.members [] none false :: stack) .firstKey) (memberText member ++ rest) =
      run (.reading (.members [] none false :: stack) .key) (memberText member ++ rest) := by
  rw [memberText, toList_renderString]
  rfl

/-- **Members behind the first one.** -/
theorem run_members {members : List (String × Json)}
    (h : ∀ member ∈ members, Reads member.2.render.toList member.2)
    (done : List (String × Json)) (rest : List Char) :
    run (.reading (.members done none false :: stack) .next)
        ((members.map memberText).flatMap (',' :: ·) ++ '\x7d' :: rest) =
      run (.give stack (.object (done.reverse ++ members))) rest := by
  induction members generalizing done with
  | nil =>
      rw [List.append_nil]
      rfl
  | cons member members ih =>
      obtain ⟨hmember, hmembers⟩ := List.forall_mem_cons.1 h
      obtain ⟨c, behind, hbehind, hc⟩ :=
        exists_cons_of_parts (show isNumeralChar '\x7d' = false from rfl)
          (members.map memberText) rest
      have hcomma : step (.reading (.members done none false :: stack) .next) ',' =
        some (.reading (.members done none false :: stack) .key) := rfl
      rw [List.map_cons, List.flatMap_cons, List.append_assoc, List.cons_append, run_cons, hcomma,
        Option.bind_some, hbehind, run_member hmember done hc, ← hbehind, ih hmembers,
        List.reverse_cons, List.append_assoc, List.singleton_append]

theorem reads_object {members : List (String × Json)}
    (h : ∀ member ∈ members, Reads member.2.render.toList member.2) :
    Reads (object members).render.toList (.object members) := by
  have hopen (stack : List Frame) : step (.reading stack .value) '\x7b' =
    some (.reading (.members [] none false :: stack) .firstKey) := rfl
  rw [render, String.toList_append, String.toList_append, String.toList_intercalate,
    renderMembers_eq_map]
  refine ⟨⟨_, rfl, by decide⟩, fun stack c rest _ => ?_⟩
  cases members with
  | nil => rfl
  | cons member members =>
      obtain ⟨hmember, hmembers⟩ := List.forall_mem_cons.1 h
      obtain ⟨d, behind, hbehind, hd⟩ :=
        exists_cons_of_parts (show isNumeralChar '\x7d' = false from rfl)
          (members.map memberText) (c :: rest)
      have htext : "\x7b".toList ++ [','].intercalate ((member :: members).map memberText) ++
          "\x7d".toList ++ c :: rest =
          '\x7b' :: (memberText member ++
            ((members.map memberText).flatMap (',' :: ·) ++ '\x7d' :: c :: rest)) := by
        rw [List.map_cons, intercalate_cons_eq]
        simp
      rw [show ",".toList = [','] from rfl, htext, run_cons, hopen, Option.bind_some, hbehind,
        run_firstKey, run_member hmember [] hd, ← hbehind, run_members hmembers]
      rfl

/-! ### Documents -/

/-- The number that the text of a number is read as. -/
def Number.reread? (n : Number) : Option Number :=
  match (Numeral.ofChars? n.render.toList).map Numeral.document with
  | some (.number m) => some m
  | _ => none

theorem head_toDigits {n : Nat} (h : 0 < n) : (Nat.toDigits 10 n).head? ≠ some '0' := by
  induction n using Nat.strong_induction_on with
  | _ n ih =>
      by_cases hten : n < 10
      · rw [Nat.toDigits_of_lt_base hten]
        interval_cases n <;> decide
      · have hfront := ih (n / 10) (by omega) (by omega)
        rw [Nat.toDigits_of_base_le (by decide) (by omega),
          List.head?_append_of_ne_nil _ Nat.toDigits_ne_nil]
        exact hfront

/-- The numeral of an integer. -/
theorem ofChars?_toString (n : Int) :
    Numeral.ofChars? (toString n).toList =
      some ⟨decide (n < 0), Nat.toDigits 10 n.natAbs, none, none⟩ := by
  have hdigits := Digits.allDigits_toDigits n.natAbs
  have hlead : (Nat.toDigits 10 n.natAbs).length = 1 ∨
      (Nat.toDigits 10 n.natAbs).head? ≠ some '0' := by
    rcases Nat.eq_zero_or_pos n.natAbs with hzero | hpos
    · rw [hzero]
      exact .inl rfl
    · exact .inr (head_toDigits hpos)
  have hunsigned (negative : Bool) : Numeral.unsigned? negative (Nat.toDigits 10 n.natAbs) =
      some ⟨negative, Nat.toDigits 10 n.natAbs, none, none⟩ := by
    have hguard : (!(Nat.toDigits 10 n.natAbs).isEmpty &&
        ((Nat.toDigits 10 n.natAbs).length == 1 ||
          (Nat.toDigits 10 n.natAbs).head? != some '0')) = true := by
      simpa [Nat.toDigits_ne_nil] using hlead
    rw [Numeral.unsigned?, List.takeWhile_eq_self_iff.2 hdigits,
      List.dropWhile_eq_nil_iff.2 hdigits]
    simp only [hguard]
    rfl
  rw [Digits.toList_toString, Digits.minus]
  split_ifs with hnegative
  · rw [decide_eq_true hnegative]
    exact hunsigned true
  · rw [decide_eq_false hnegative, List.nil_append, Numeral.ofChars?.eq_def]
    split
    · next rest hminus =>
      have := hdigits '-' (hminus ▸ List.mem_cons_self)
      cases this
    · exact hunsigned false

/-- **An integer of 64 bits is read back from its text.** -/
theorem reread?_int {n : Int} (hlow : -0x8000000000000000 ≤ n) (hhigh : n < 0x10000000000000000) :
    (Number.int n).reread? = some (.int n) := by
  have hdocument : Numeral.document ⟨decide (n < 0), Nat.toDigits 10 n.natAbs, none, none⟩ =
      int n := by
    rw [Numeral.document]
    simp only [Instant.value_toDigits, Option.isSome_none, Bool.or_self, Bool.false_eq_true,
      if_false]
    split_ifs with hnegative hheld hheld
    · congr 1
      have := of_decide_eq_true hnegative
      omega
    · simp at hnegative hheld
      omega
    · congr 1
      simp at hnegative
      omega
    · simp at hnegative
      omega
  rw [Number.reread?, Number.render, ofChars?_toString, Option.map_some, hdocument]
  rfl

/-- A leaf that is read back from its own text, if it is a number; nothing broken is. -/
def Reread : Json → Prop
  | .number n => n.reread? = some n
  | .broken => False
  | _ => True

instance : DecidablePred Reread
  | .number n => inferInstanceAs (Decidable (n.reread? = some n))
  | .broken => inferInstanceAs (Decidable False)
  | .null | .bool _ | .string _ | .array _ | .object _ => inferInstanceAs (Decidable True)

theorem reads_number {n : Number} (h : n.reread? = some n) :
    Reads (number n).render.toList (.number n) := by
  rw [Number.reread?] at h
  split at h
  · next m hm =>
    cases h
    obtain ⟨numeral, hnumeral, hdocument⟩ := Option.map_eq_some_iff.1 hm
    have hreads := reads_numeral hnumeral
    rwa [hdocument] at hreads
  · cases h

mutual

/-- **The text of a document is read as the document.** -/
theorem reads_render : ∀ {document : Json}, document.All Reread →
    Reads document.render.toList document
  | .null, _ => reads_null
  | .bool b, _ => reads_bool b
  | .number _, h => reads_number (all_number _ |>.1 h)
  | .string s, _ => reads_string s
  | .array _, h => reads_array (reads_items (all_array.1 h))
  | .object _, h => reads_object (reads_members (all_object.1 h))
  | .broken, h => (all_broken.1 h).elim

theorem reads_items : ∀ {items : List Json}, (∀ item ∈ items, item.All Reread) →
    ∀ item ∈ items, Reads item.render.toList item
  | [], _ => List.forall_mem_nil _
  | _ :: _, h => by
      obtain ⟨hitem, hrest⟩ := List.forall_mem_cons.1 h
      exact List.forall_mem_cons.2 ⟨reads_render hitem, reads_items hrest⟩

theorem reads_members : ∀ {members : List (String × Json)},
    (∀ member ∈ members, member.2.All Reread) →
      ∀ member ∈ members, Reads member.2.render.toList member.2
  | [], _ => List.forall_mem_nil _
  | _ :: _, h => by
      obtain ⟨hvalue, hrest⟩ := List.forall_mem_cons.1 h
      exact List.forall_mem_cons.2 ⟨reads_render hvalue, reads_members hrest⟩

end

theorem read?_render (h : document.All Reread) : read? document.render = some document := by
  have hrun : run (.reading [] .value) (document.render.toList ++ [' ']) =
      some (.complete document) :=
    (reads_render h).run_eq [] ' ' [] rfl
  rw [read?, hrun]

end ScaleMetrics.Json
