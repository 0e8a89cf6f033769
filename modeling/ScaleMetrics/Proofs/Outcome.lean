import Mathlib

/-!
# Proofs — Outcome

Inversions of computations that end in a value or an error: a sequence has a value when its parts
have (`bind_eq_ok`), and so has a list (`mapM_eq_ok`).  What is found for the items of a list one by
one is a list beside it (`exists_forall₂`).  A loop fails at one of its items
(`foldlM_eq_error_iff`).  Where a search stops is the first item with a property (`IsFirst`).
-/

namespace ScaleMetrics

variable {ε α β : Type}

theorem bind_eq_ok {x : Except ε α} {f : α → Except ε β} {b : β} :
    (x >>= f) = .ok b ↔ ∃ a, x = .ok a ∧ f a = .ok b := by
  cases x with
  | error e =>
      constructor
      · intro h
        cases h
      · rintro ⟨_, h, -⟩
        cases h
  | ok a =>
      constructor
      · intro h
        exact ⟨a, rfl, h⟩
      · rintro ⟨_, h, hf⟩
        cases h
        exact hf

theorem bind_ok {x : Except ε α} {f : α → Except ε β} {a : α} {b : β} (h : x = .ok a)
    (h' : f a = .ok b) : (x >>= f) = .ok b :=
  bind_eq_ok.2 ⟨a, h, h'⟩

theorem bind_eq_error {x : Except ε α} {f : α → Except ε β} {e : ε} :
    (x >>= f) = .error e ↔ x = .error e ∨ ∃ a, x = .ok a ∧ f a = .error e := by
  cases x with
  | error e' => simp [bind, Except.bind]
  | ok a => simp [bind, Except.bind]

theorem pure_eq_ok {a b : α} : (pure a : Except ε α) = .ok b ↔ a = b :=
  Except.ok.injEq a b ▸ Iff.rfl

theorem bind_pure_eq_ok {x : Except ε α} {f : α → β} {b : β} :
    (x >>= fun a => pure (f a)) = .ok b ↔ ∃ a, x = .ok a ∧ f a = b := by
  rw [bind_eq_ok]
  exact exists_congr fun a => and_congr_right fun _ => pure_eq_ok

theorem exists_bind_pure_iff {x : Except ε α} {f : α → β} :
    (∃ b, (x >>= fun a => pure (f a)) = .ok b) ↔ ∃ a, x = .ok a := by
  simp only [bind_pure_eq_ok]
  constructor
  · rintro ⟨_, a, ha, -⟩
    exact ⟨a, ha⟩
  · rintro ⟨a, ha⟩
    exact ⟨_, a, ha, rfl⟩

theorem map_eq_ok {x : Except ε α} {f : α → β} {b : β} :
    x.map f = .ok b ↔ ∃ a, x = .ok a ∧ f a = b := by
  cases x <;> simp [Except.map]

theorem mapError_eq_ok {δ : Type} {x : Except ε α} {f : ε → δ} {a : α} :
    x.mapError f = .ok a ↔ x = .ok a := by
  cases x <;> simp [Except.mapError]

theorem toOption_eq_some_iff {x : Except ε α} {a : α} : x.toOption = some a ↔ x = .ok a := by
  cases x <;> simp [Except.toOption]

theorem toOption_bind (x : Except ε α) (f : α → Except ε β) :
    (x >>= f).toOption = x.toOption.bind fun a => (f a).toOption := by
  cases x <;> rfl

theorem toOption_mapError {δ : Type} (x : Except ε α) (f : ε → δ) :
    (x.mapError f).toOption = x.toOption := by
  cases x <;> rfl

/-- The values of a list are beside its items. -/
theorem mapM_eq_ok {f : α → Except ε β} :
    ∀ {items : List α} {values : List β},
      items.mapM f = .ok values ↔ List.Forall₂ (fun a b => f a = .ok b) items values
  | [], values => by
      rw [List.mapM_nil, pure_eq_ok, List.forall₂_nil_left_iff, eq_comm]
  | a :: rest, values => by
      rw [List.mapM_cons, bind_eq_ok, List.forall₂_cons_left_iff]
      constructor
      · rintro ⟨b, hb, h⟩
        obtain ⟨tail, htail, h⟩ := bind_eq_ok.1 h
        exact ⟨b, tail, hb, mapM_eq_ok.1 htail, (pure_eq_ok.1 h).symm⟩
      · rintro ⟨b, tail, hb, htail, rfl⟩
        exact ⟨b, hb, bind_eq_ok.2 ⟨tail, mapM_eq_ok.2 htail, rfl⟩⟩

theorem mapM_eq_some {f : α → Option β} :
    ∀ {items : List α} {values : List β},
      items.mapM f = some values ↔ List.Forall₂ (fun a b => f a = some b) items values
  | [], values => by
      rw [List.mapM_nil, List.forall₂_nil_left_iff]
      exact Option.some_inj.trans eq_comm
  | a :: rest, values => by
      rw [List.mapM_cons, List.forall₂_cons_left_iff]
      simp only [Option.bind_eq_bind, Option.bind_eq_some_iff, Option.pure_def, Option.some_inj,
        mapM_eq_some]
      constructor
      · rintro ⟨b, hb, tail, htail, rfl⟩
        exact ⟨b, tail, hb, htail, rfl⟩
      · rintro ⟨b, tail, hb, htail, rfl⟩
        exact ⟨b, hb, tail, htail, rfl⟩

/-- A loop over a list fails at the first item that it cannot take. -/
theorem foldlM_eq_error_iff {f : β → α → Except ε β} {e : ε} :
    ∀ {items : List α} {start : β},
      items.foldlM f start = .error e ↔
        ∃ front a rest b, items = front ++ a :: rest ∧ front.foldlM f start = .ok b ∧
          f b a = .error e
  | [], start => by
      rw [List.foldlM_nil]
      constructor
      · intro h
        cases h
      · rintro ⟨front, a, rest, b, hitems, -⟩
        cases front <;> cases hitems
  | first :: items, start => by
      rw [List.foldlM_cons, bind_eq_error]
      constructor
      · rintro (hfirst | ⟨next, hnext, hrest⟩)
        · exact ⟨[], first, items, start, rfl, rfl, hfirst⟩
        · obtain ⟨front, a, rest, b, rfl, hfront, ha⟩ := foldlM_eq_error_iff.1 hrest
          refine ⟨first :: front, a, rest, b, rfl, ?_, ha⟩
          rw [List.foldlM_cons]
          exact bind_eq_ok.2 ⟨next, hnext, hfront⟩
      · rintro ⟨front, a, rest, b, hitems, hfront, ha⟩
        cases front with
        | nil =>
            cases hitems
            obtain rfl := pure_eq_ok.1 hfront
            exact .inl ha
        | cons first' front =>
            cases hitems
            rw [List.foldlM_cons] at hfront
            obtain ⟨next, hnext, hfront⟩ := bind_eq_ok.1 hfront
            exact .inr ⟨next, hnext, foldlM_eq_error_iff.2 ⟨front, a, rest, b, rfl, hfront, ha⟩⟩

/-- Related values for all items of a list are a related list. -/
theorem exists_forall₂ {R : α → β → Prop} {items : List α} (h : ∀ a ∈ items, ∃ b, R a b) :
    ∃ values, List.Forall₂ R items values := by
  induction items with
  | nil => exact ⟨[], .nil⟩
  | cons a rest ih =>
      obtain ⟨b, hb⟩ := h a List.mem_cons_self
      obtain ⟨values, hvalues⟩ := ih fun a' hmem => h a' (List.mem_cons_of_mem _ hmem)
      exact ⟨b :: values, .cons hb hvalues⟩

theorem exists_of_mem_left {R : α → β → Prop} {items : List α} {values : List β}
    (h : List.Forall₂ R items values) {a : α} (ha : a ∈ items) : ∃ b ∈ values, R a b := by
  induction h with
  | nil => cases ha
  | cons hab _ ih =>
      rcases List.mem_cons.1 ha with rfl | ha
      · exact ⟨_, List.mem_cons_self, hab⟩
      · obtain ⟨b, hb, hR⟩ := ih ha
        exact ⟨b, List.mem_cons_of_mem _ hb, hR⟩

theorem exists_of_mem_right {R : α → β → Prop} {items : List α} {values : List β}
    (h : List.Forall₂ R items values) {b : β} (hb : b ∈ values) : ∃ a ∈ items, R a b :=
  exists_of_mem_left h.flip hb

theorem exists_forall₂_iff {R : α → β → Prop} {items : List α} :
    (∃ values, List.Forall₂ R items values) ↔ ∀ a ∈ items, ∃ b, R a b := by
  constructor
  · rintro ⟨values, h⟩ a ha
    obtain ⟨b, -, hb⟩ := exists_of_mem_left h ha
    exact ⟨b, hb⟩
  · exact exists_forall₂

/-- Lists beside each other end in related items. -/
theorem getLast?_of_forall₂ {R : α → β → Prop} {items : List α} {values : List β}
    (h : List.Forall₂ R items values) :
    items.getLast? = none ∧ values.getLast? = none ∨
      ∃ a b, items.getLast? = some a ∧ values.getLast? = some b ∧ R a b := by
  rw [List.getLast?_eq_head?_reverse, List.getLast?_eq_head?_reverse]
  have hreverse := List.forall₂_reverse_iff.2 h
  generalize items.reverse = xs at hreverse ⊢
  generalize values.reverse = ys at hreverse ⊢
  cases hreverse with
  | nil => exact .inl ⟨rfl, rfl⟩
  | cons hab _ => exact .inr ⟨_, _, rfl, rfl, hab⟩

/-! ### The first item with a property -/

/-- The item has the property, and no item before it has. -/
def IsFirst (P : α → Prop) (items : List α) (a : α) : Prop :=
  ∃ before after, items = before ++ a :: after ∧ P a ∧ ∀ b ∈ before, ¬ P b

variable {P Q : α → Prop} {items rest xs ys : List α} {a b : α}

theorem IsFirst.mem (h : IsFirst P items a) : a ∈ items := by
  obtain ⟨before, after, rfl, -⟩ := h
  exact List.mem_append_right _ List.mem_cons_self

theorem IsFirst.holds (h : IsFirst P items a) : P a := by
  obtain ⟨-, -, -, ha, -⟩ := h
  exact ha

theorem not_isFirst_nil : ¬ IsFirst P [] a := by
  rintro ⟨before, after, hitems, -⟩
  cases before <;> cases hitems

theorem isFirst_cons_iff :
    IsFirst P (b :: rest) a ↔ P b ∧ a = b ∨ ¬ P b ∧ IsFirst P rest a := by
  constructor
  · rintro ⟨before, after, hitems, ha, hbefore⟩
    cases before with
    | nil =>
        cases hitems
        exact .inl ⟨ha, rfl⟩
    | cons _ before =>
        cases hitems
        obtain ⟨hb, hbefore⟩ := List.forall_mem_cons.1 hbefore
        exact .inr ⟨hb, before, after, rfl, ha, hbefore⟩
  · rintro (⟨hb, rfl⟩ | ⟨hb, before, after, rfl, ha, hbefore⟩)
    · exact ⟨[], rest, rfl, hb, by simp⟩
    · exact ⟨b :: before, after, rfl, ha, List.forall_mem_cons.2 ⟨hb, hbefore⟩⟩

theorem isFirst_append_iff :
    IsFirst P (xs ++ ys) a ↔ IsFirst P xs a ∨ (∀ b ∈ xs, ¬ P b) ∧ IsFirst P ys a := by
  induction xs with
  | nil => simp [not_isFirst_nil]
  | cons b rest ih =>
      rw [List.cons_append, isFirst_cons_iff, isFirst_cons_iff, ih, List.forall_mem_cons]
      tauto

/-- A list with such an item has a first one. -/
theorem exists_isFirst_iff : (∃ a, IsFirst P items a) ↔ ∃ a ∈ items, P a := by
  induction items with
  | nil => simp [not_isFirst_nil]
  | cons b rest ih =>
      by_cases hb : P b <;> simp [isFirst_cons_iff, hb, ih]

theorem exists_isFirst_cons :
    (∃ a, IsFirst P (b :: rest) a ∧ Q a) ↔
      P b ∧ Q b ∨ ¬ P b ∧ ∃ a, IsFirst P rest a ∧ Q a := by
  by_cases hb : P b <;> simp [isFirst_cons_iff, hb]

theorem exists_isFirst_append :
    (∃ a, IsFirst P (xs ++ ys) a ∧ Q a) ↔
      (∃ a, IsFirst P xs a ∧ Q a) ∨
        (∀ b ∈ xs, ¬ P b) ∧ ∃ a, IsFirst P ys a ∧ Q a := by
  simp only [isFirst_append_iff, or_and_right, exists_or, and_assoc, exists_and_left]

end ScaleMetrics
