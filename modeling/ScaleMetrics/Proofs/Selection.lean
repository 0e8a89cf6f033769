import ScaleMetrics.Proofs.Outcome
import ScaleMetrics.Selector.Written

/-!
# Proofs — Selection

Which written selectors stand for conditions, and which label maps they select.

A requirement is well formed (`Requirement.WellFormed`) when it has a key, its operator is one of
four, and it lists values exactly if the operator is about values.  Read on its own it allows some
label maps (`Requirement.Allows`), and a written selector matches those that have its labels and
that every requirement allows (`LabelSelector.Matches`).

* `selector_eq_ok_iff`: a written selector stands for conditions when all its requirements are
  well formed, and `selects_iff_matches`: these select what it matches.
* `selector_eq_error_iff`: otherwise the error is that of the first requirement whose key or whose
  values break a rule, and only without one that of an operator.
* `LabelSelector.Matches.of_extends`: a selector that asks for more matches no more.
-/

namespace ScaleMetrics

namespace Requirement

/-! ### One requirement -/

/-- The operator is about the value of the key. -/
def AboutValue (r : Requirement) : Prop :=
  r.operator = "In" ∨ r.operator = "NotIn"

/-- The operator is about the key alone. -/
def AboutKey (r : Requirement) : Prop :=
  r.operator = "Exists" ∨ r.operator = "DoesNotExist"

/-- The requirement can be decided. -/
structure WellFormed (r : Requirement) : Prop where
  key : r.key ≠ ""
  operator : r.AboutValue ∨ r.AboutKey
  values : r.AboutValue → r.valueList ≠ []
  noValues : r.AboutKey → r.valueList = []

/-- The key or the values of the requirement break a rule. -/
inductive Breaks (r : Requirement) : LabelSelector.Fault → Prop where
  | emptyKey : r.key = "" → Breaks r .emptyKey
  | missingValues : r.key ≠ "" → r.AboutValue → r.valueList = [] →
      Breaks r (.missingValues r.operator r.key)
  | surplusValues : r.key ≠ "" → r.AboutKey → r.valueList ≠ [] →
      Breaks r (.surplusValues r.operator r.key)

/-- The key or the values break some rule. -/
def Broken (r : Requirement) : Prop :=
  ∃ fault, r.Breaks fault

/-- The requirement is met by the labels. -/
inductive Allows (labels : Labels) (r : Requirement) : Prop where
  | among {value : String} : r.operator = "In" → labels.get? r.key = some value →
      value ∈ r.valueList → Allows labels r
  | notAmong : r.operator = "NotIn" →
      (∀ value, labels.get? r.key = some value → value ∉ r.valueList) → Allows labels r
  | present {value : String} : r.operator = "Exists" → labels.get? r.key = some value →
      Allows labels r
  | absent : r.operator = "DoesNotExist" → labels.get? r.key = none → Allows labels r

variable {r : Requirement} {fault : LabelSelector.Fault} {labels : Labels} {condition : Condition}

theorem fault?_eq_some_iff : r.fault? = some fault ↔ r.Breaks fault := by
  rw [fault?]
  constructor
  · intro h
    split_ifs at h with hkey hvalues hsurplus
    · obtain rfl := Option.some.inj h
      exact .emptyKey hkey
    · obtain rfl := Option.some.inj h
      exact .missingValues hkey hvalues.1 hvalues.2
    · obtain rfl := Option.some.inj h
      exact .surplusValues hkey hsurplus.1 hsurplus.2
  · intro h
    cases h with
    | emptyKey hkey => rw [if_pos hkey]
    | missingValues hkey habout hnone => rw [if_neg hkey, if_pos ⟨habout, hnone⟩]
    | surplusValues hkey habout hsome =>
        rw [if_neg hkey, if_neg fun h => hsome h.2, if_pos ⟨habout, hsome⟩]

theorem fault?_eq_none_iff : r.fault? = none ↔ ¬ r.Broken := by
  rw [Option.eq_none_iff_forall_ne_some, Broken, not_exists]
  exact forall_congr' fun fault => not_congr fault?_eq_some_iff

/-- The four operators, and what they make of the key and the values. -/
theorem condition?_eq_some_iff :
    r.condition? = some condition ↔
      (r.operator = "In" ∧ .among r.key (Names.ofList r.valueList) = condition) ∨
      (r.operator = "NotIn" ∧ .notAmong r.key (Names.ofList r.valueList) = condition) ∨
      (r.operator = "Exists" ∧ .present r.key = condition) ∨
      (r.operator = "DoesNotExist" ∧ .absent r.key = condition) := by
  rw [condition?]
  constructor
  · intro h
    split_ifs at h with hin hnotIn hexists habsent
    · exact .inl ⟨hin, Option.some.inj h⟩
    · exact .inr (.inl ⟨hnotIn, Option.some.inj h⟩)
    · exact .inr (.inr (.inl ⟨hexists, Option.some.inj h⟩))
    · exact .inr (.inr (.inr ⟨habsent, Option.some.inj h⟩))
  · rintro (⟨h, rfl⟩ | ⟨h, rfl⟩ | ⟨h, rfl⟩ | ⟨h, rfl⟩) <;> simp [h]

theorem exists_condition?_iff : (∃ c, r.condition? = some c) ↔ r.AboutValue ∨ r.AboutKey := by
  simp only [condition?_eq_some_iff, exists_or, exists_and_left, exists_eq', and_true, AboutValue,
    AboutKey, or_assoc]

/-- **The condition of a requirement holds where the requirement is met.** -/
theorem holds_iff_allows (h : r.condition? = some condition) :
    condition.Holds labels ↔ r.Allows labels := by
  constructor
  · intro hholds
    rcases condition?_eq_some_iff.1 h with ⟨hop, rfl⟩ | ⟨hop, rfl⟩ | ⟨hop, rfl⟩ | ⟨hop, rfl⟩
    · obtain ⟨value, hvalue, hmem⟩ := hholds
      exact .among hop hvalue (Names.mem_ofList.1 hmem)
    · exact .notAmong hop fun value hvalue hmem => hholds value hvalue (Names.mem_ofList.2 hmem)
    · obtain ⟨value, hvalue⟩ := Option.ne_none_iff_exists'.1 hholds
      exact .present hop hvalue
    · exact .absent hop hholds
  · intro hallows
    cases hallows with
    | among hop hvalue hmem =>
        obtain rfl : .among r.key (Names.ofList r.valueList) = condition := by
          simpa [condition?, hop] using h
        exact ⟨_, hvalue, Names.mem_ofList.2 hmem⟩
    | notAmong hop hnone =>
        obtain rfl : .notAmong r.key (Names.ofList r.valueList) = condition := by
          simpa [condition?, hop] using h
        exact fun value hvalue hmem => hnone value hvalue (Names.mem_ofList.1 hmem)
    | present hop hvalue =>
        obtain rfl : .present r.key = condition := by simpa [condition?, hop] using h
        exact Option.ne_none_iff_exists'.2 ⟨_, hvalue⟩
    | absent hop hnone =>
        obtain rfl : .absent r.key = condition := by simpa [condition?, hop] using h
        exact hnone

/-- A requirement is well formed when no rule is broken and its operator makes a condition. -/
theorem wellFormed_iff : r.WellFormed ↔ ¬ r.Broken ∧ ∃ c, r.condition? = some c := by
  rw [exists_condition?_iff]
  constructor
  · intro h
    refine ⟨?_, h.operator⟩
    rintro ⟨fault, hkey | ⟨-, habout, hnone⟩ | ⟨-, habout, hsome⟩⟩
    · exact h.key hkey
    · exact h.values habout hnone
    · exact hsome (h.noValues habout)
  · rintro ⟨hrules, hoperator⟩
    have hkey : r.key ≠ "" := fun hkey => hrules ⟨_, .emptyKey hkey⟩
    refine ⟨hkey, hoperator, fun habout hnone => ?_, fun habout => ?_⟩
    · exact hrules ⟨_, .missingValues hkey habout hnone⟩
    · by_contra hsome
      exact hrules ⟨_, .surplusValues hkey habout hsome⟩

end Requirement

namespace LabelSelector

/-! ### A whole selector -/

/-- The labels have those of the selector, and meet all its requirements. -/
structure Matches (s : LabelSelector) (labels : Labels) : Prop where
  has : ∀ key value, (key, value) ∈ s.labelList → labels.get? key = some value
  allowed : ∀ r ∈ s.requirements, r.Allows labels

/-- The selector asks for all that another one asks for. -/
structure Extends (s t : LabelSelector) : Prop where
  labels : ∀ pair ∈ t.labelList, pair ∈ s.labelList
  requirements : ∀ r ∈ t.requirements, r ∈ s.requirements

variable {s t : LabelSelector} {selector : Selector} {labels : Labels} {fault : Fault}

/-- More is asked for, and no more is matched. -/
theorem Matches.of_extends (h : s.Matches labels) (hextends : s.Extends t) : t.Matches labels :=
  ⟨fun key value hmem => h.has key value (hextends.labels _ hmem),
    fun r hmem => h.allowed r (hextends.requirements r hmem)⟩

/-- The conditions of the labels to match, and then those of the requirements. -/
theorem selector_eq_ok_iff :
    s.selector = .ok selector ↔
      (∀ r ∈ s.requirements, ¬ r.Broken) ∧ ∃ conditions,
        List.Forall₂ (fun r c => Requirement.condition? r = some c) s.requirements conditions ∧
          ⟨s.labelList.map (fun (key, value) => .equals key value) ++ conditions⟩ = selector := by
  simp only [← Requirement.fault?_eq_none_iff, ← mapM_eq_some]
  rw [LabelSelector.selector, ← List.findSome?_eq_none_iff]
  cases hfault : s.requirements.findSome? Requirement.fault? with
  | some fault => simp
  | none => cases hconditions : s.requirements.mapM Requirement.condition? <;> simp

/-- **A selector of well-formed requirements, and no other, stands for conditions.** -/
theorem exists_selector_iff :
    (∃ selector, s.selector = .ok selector) ↔ ∀ r ∈ s.requirements, r.WellFormed := by
  simp only [selector_eq_ok_iff, Requirement.wellFormed_iff, forall₂_and, ← exists_forall₂_iff]
  constructor
  · rintro ⟨selector, hrules, conditions, hall, -⟩
    exact ⟨hrules, conditions, hall⟩
  · rintro ⟨hrules, conditions, hall⟩
    exact ⟨_, hrules, conditions, hall, rfl⟩

/-- **The conditions hold of the labels that the written selector matches.** -/
theorem selects_iff_matches (h : s.selector = .ok selector) :
    selector.selects labels = true ↔ s.Matches labels := by
  obtain ⟨-, conditions, hall, rfl⟩ := selector_eq_ok_iff.1 h
  rw [Selector.selects_iff, List.forall_mem_append]
  constructor
  · rintro ⟨hlabels, hconditions⟩
    refine ⟨fun key value hmem => ?_, fun r hmem => ?_⟩
    · exact hlabels (.equals key value) (List.mem_map.2 ⟨(key, value), hmem, rfl⟩)
    · obtain ⟨c, hc, hcondition⟩ := exists_of_mem_left hall hmem
      exact (Requirement.holds_iff_allows hcondition).1 (hconditions c hc)
  · rintro ⟨hhas, hallowed⟩
    refine ⟨fun c hc => ?_, fun c hc => ?_⟩
    · obtain ⟨⟨key, value⟩, hmem, rfl⟩ := List.mem_map.1 hc
      exact hhas key value hmem
    · obtain ⟨r, hmem, hcondition⟩ := exists_of_mem_right hall hc
      exact (Requirement.holds_iff_allows hcondition).2 (hallowed r hmem)

theorem findSome?_fault_eq_some_iff {requirements : List Requirement} :
    requirements.findSome? Requirement.fault? = some fault ↔
      ∃ r, IsFirst Requirement.Broken requirements r ∧ r.Breaks fault := by
  induction requirements with
  | nil => simp [not_isFirst_nil]
  | cons r rest ih =>
      rw [List.findSome?_cons, exists_isFirst_cons, ← ih]
      cases hfault : r.fault? with
      | some found =>
          have hbroken : r.Broken := ⟨found, Requirement.fault?_eq_some_iff.1 hfault⟩
          simp [hbroken, ← Requirement.fault?_eq_some_iff, hfault]
      | none => simp [Requirement.fault?_eq_none_iff.1 hfault]

/-- There are no conditions when some operator makes none. -/
theorem mapM_condition?_eq_none_iff {requirements : List Requirement} :
    requirements.mapM Requirement.condition? = none ↔
      ∃ r ∈ requirements, ¬ (r.AboutValue ∨ r.AboutKey) := by
  rw [Option.eq_none_iff_forall_ne_some, ← not_exists]
  simp only [mapM_eq_some, exists_forall₂_iff, Requirement.exists_condition?_iff, not_forall,
    exists_prop]

/-- **The error is that of the first requirement that breaks a rule.** -/
theorem selector_eq_error_iff :
    s.selector = .error fault ↔
      (∃ r, IsFirst Requirement.Broken s.requirements r ∧ r.Breaks fault) ∨
        (∀ r ∈ s.requirements, ¬ r.Broken) ∧
          (∃ r ∈ s.requirements, ¬ (r.AboutValue ∨ r.AboutKey)) ∧ .unknownOperator = fault := by
  simp only [← Requirement.fault?_eq_none_iff, ← mapM_condition?_eq_none_iff,
    ← findSome?_fault_eq_some_iff]
  rw [LabelSelector.selector, ← List.findSome?_eq_none_iff]
  cases hfault : s.requirements.findSome? Requirement.fault? with
  | some fault => simp
  | none => cases hconditions : s.requirements.mapM Requirement.condition? <;> simp

/-- **Written selectors are taken exactly when they are well formed, and keep their meaning.**  The
one that asks for nothing selects everything, and one that asks for more selects no more. -/
theorem selector_taken_exactly (s : LabelSelector) :
    ((∃ selector, s.selector = .ok selector) ↔ ∀ r ∈ s.requirements, r.WellFormed) ∧
    (∀ selector, s.selector = .ok selector →
      ∀ labels, selector.selects labels = true ↔ s.Matches labels) ∧
    (s.labelList = [] → s.requirements = [] →
      ∃ selector, s.selector = .ok selector ∧ ∀ labels, selector.selects labels = true) ∧
    (∀ (wider : LabelSelector) (selector : Selector), s.Extends wider → s.selector = .ok selector →
      ∃ more, wider.selector = .ok more ∧
        ∀ labels, selector.selects labels = true → more.selects labels = true) ∧
    ∀ fault, s.selector = .error fault ↔
      (∃ r, IsFirst Requirement.Broken s.requirements r ∧ r.Breaks fault) ∨
        (∀ r ∈ s.requirements, ¬ r.Broken) ∧
          (∃ r ∈ s.requirements, ¬ (r.AboutValue ∨ r.AboutKey)) ∧ .unknownOperator = fault := by
  refine ⟨exists_selector_iff, fun selector h labels => selects_iff_matches h, ?_, ?_,
    fun fault => selector_eq_error_iff⟩
  · intro hlabels hnone
    have hwell : ∀ r ∈ s.requirements, r.WellFormed := by simp [hnone]
    obtain ⟨selector, h⟩ := exists_selector_iff.2 hwell
    refine ⟨selector, h, fun labels => (selects_iff_matches h).2 ⟨?_, ?_⟩⟩
    · simp [hlabels]
    · simp [hnone]
  · intro wider selector hextends h
    have hwell := exists_selector_iff.1 ⟨selector, h⟩
    obtain ⟨more, hmore⟩ := exists_selector_iff.2 fun r hmem =>
      hwell r (hextends.requirements r hmem)
    refine ⟨more, hmore, fun labels hselects => ?_⟩
    have hmatches : s.Matches labels := (selects_iff_matches h).1 hselects
    exact (selects_iff_matches hmore).2 (hmatches.of_extends hextends)

/-! ### A selector of two requirements -/

/-- Frontends of one application that are marked by no `legacy` label. -/
def frontends : LabelSelector where
  matchLabels := some (.ofList [("app", "web")])
  matchExpressions := some
    [⟨"tier", "In", some ["frontend", "edge"]⟩, ⟨"legacy", "DoesNotExist", none⟩]

/-- An unknown operator, a list of values that is empty, and a key that is. -/
def thriceWrong : LabelSelector where
  matchLabels := none
  matchExpressions := some
    [⟨"tier", "Near", some ["edge"]⟩, ⟨"tier", "In", some []⟩, ⟨"", "Exists", none⟩]

theorem selector_taken_exactly_frontends :
    (∃ selector, frontends.selector = .ok selector ∧
      (∀ labels, selector.selects labels = true ↔ frontends.Matches labels) ∧
      ∃ more, (⟨none, none⟩ : LabelSelector).selector = .ok more ∧
        ∀ labels, selector.selects labels = true → more.selects labels = true) ∧
    (∃ selector, (⟨some .empty, some []⟩ : LabelSelector).selector = .ok selector ∧
      ∀ labels, selector.selects labels = true) ∧
    thriceWrong.selector = .error (.missingValues "In" "tier") := by
  obtain ⟨-, hmeaning, -, hwider, -⟩ := selector_taken_exactly frontends
  obtain ⟨-, -, hempty, -, -⟩ := selector_taken_exactly ⟨some .empty, some []⟩
  obtain ⟨-, -, -, -, hfault⟩ := selector_taken_exactly thriceWrong
  have hfrontends : ∃ selector, frontends.selector = .ok selector := ⟨_, rfl⟩
  obtain ⟨selector, h⟩ := hfrontends
  have hbreaks : Requirement.Breaks ⟨"tier", "In", some []⟩ (.missingValues "In" "tier") :=
    .missingValues (by decide) (.inl rfl) rfl
  have hfirst : IsFirst Requirement.Broken thriceWrong.requirements ⟨"tier", "In", some []⟩ :=
    ⟨[_], _, rfl, ⟨_, hbreaks⟩, List.forall_mem_singleton.2 (Requirement.fault?_eq_none_iff.1 rfl)⟩
  refine ⟨⟨selector, h, hmeaning selector h, hwider _ selector ⟨?_, ?_⟩ h⟩, hempty rfl rfl,
    (hfault _).2 (.inl ⟨_, hfirst, hbreaks⟩)⟩
  · simp [labelList, Dict.empty, Dict.toList]
  · simp [requirements]

end LabelSelector

end ScaleMetrics
