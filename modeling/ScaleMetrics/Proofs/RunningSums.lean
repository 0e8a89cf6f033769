import ScaleMetrics.Bounded
import Mathlib

/-!
# Proofs — RunningSums

Amounts that are added from the left, when every sum on the way has to be held.

* `Milli.sum?_eq_some_iff`: a sum is found when all sums from the left can be held, and is then the
  exact one.
* `Milli.runningSumsHeld_iff_of_sign`: amounts of one sign need only that the exact sum can be
  held; of others some order will do (`Milli.exists_order`).
-/

namespace ScaleMetrics.Milli

/-- The integer can be held. -/
def Held (n : Int) : Prop :=
  -0x8000000000000000 ≤ n ∧ n ≤ 0x7fffffffffffffff

/-- Every sum from the left can be held, counted from a start. -/
def RunningSumsHeld (start : Int) (amounts : List Milli) : Prop :=
  ∀ part, part <+: amounts → Held (start + exactSum part)

variable {a : Milli} {amounts rest : List Milli}

theorem held_val (a : Milli) : Held a.val :=
  ⟨a.low_le, a.le_high⟩

theorem exists_val_of_held {n : Int} (h : Held n) : ∃ a : Milli, a.val = n :=
  ⟨⟨n, h.1, h.2⟩, rfl⟩

/-! ### Exact sums -/

theorem exactSum_nil : exactSum [] = 0 :=
  rfl

theorem exactSum_cons (a : Milli) (rest : List Milli) :
    exactSum (a :: rest) = a.val + exactSum rest := by
  simp [exactSum]

theorem exactSum_append (xs ys : List Milli) :
    exactSum (xs ++ ys) = exactSum xs + exactSum ys := by
  induction xs with
  | nil => rw [List.nil_append, exactSum_nil, Int.zero_add]
  | cons a rest ih => rw [List.cons_append, exactSum_cons, exactSum_cons, ih, Int.add_assoc]

theorem exactSum_perm {xs ys : List Milli} (h : xs.Perm ys) : exactSum xs = exactSum ys := by
  induction h with
  | nil => rfl
  | cons a _ ih => rw [exactSum_cons, exactSum_cons, ih]
  | swap a b rest =>
      simp only [exactSum_cons]
      omega
  | trans _ _ ih₁ ih₂ => exact ih₁.trans ih₂

theorem exactSum_nonneg (h : ∀ a ∈ amounts, 0 ≤ a.val) : 0 ≤ exactSum amounts := by
  induction amounts with
  | nil => exact le_rfl
  | cons a rest ih =>
      rw [exactSum_cons]
      exact Int.add_nonneg (h a List.mem_cons_self)
        (ih fun b hmem => h b (List.mem_cons_of_mem _ hmem))

theorem exactSum_nonpos (h : ∀ a ∈ amounts, a.val ≤ 0) : exactSum amounts ≤ 0 := by
  induction amounts with
  | nil => exact le_rfl
  | cons a rest ih =>
      rw [exactSum_cons]
      exact add_nonpos (h a List.mem_cons_self)
        (ih fun b hmem => h b (List.mem_cons_of_mem _ hmem))

/-! ### One addition -/

theorem add?_eq_some_iff {a b c : Milli} : a.add? b = some c ↔ c.val = a.val + b.val :=
  Bounded.ofInt?_eq_some_iff

theorem add?_eq_none_iff {a b : Milli} : a.add? b = none ↔ ¬ Held (a.val + b.val) := by
  rw [add?, ofInt?, Bounded.ofInt?_eq_none_iff, Held, not_and_or, Int.not_le, Int.not_le]

theorem exists_add?_of_held {a b : Milli} (h : Held (a.val + b.val)) : ∃ c, a.add? b = some c := by
  cases hc : a.add? b with
  | some c => exact ⟨c, rfl⟩
  | none => exact absurd h (add?_eq_none_iff.1 hc)

/-! ### All sums from the left -/

theorem runningSumsHeld_nil_iff {start : Int} : RunningSumsHeld start [] ↔ Held start := by
  simp [RunningSumsHeld, exactSum]

/-- The first of the running sums. -/
theorem RunningSumsHeld.start {start : Int} (h : RunningSumsHeld start amounts) : Held start := by
  simpa [exactSum] using h [] List.nil_prefix

theorem runningSumsHeld_cons_iff {start : Int} :
    RunningSumsHeld start (a :: rest) ↔ Held start ∧ RunningSumsHeld (start + a.val) rest := by
  constructor
  · refine fun h => ⟨h.start, fun part hpart => ?_⟩
    have hheld := h (a :: part) ((List.prefix_cons_inj a).2 hpart)
    rwa [exactSum_cons, ← Int.add_assoc] at hheld
  · rintro ⟨hstart, h⟩ part hpart
    rcases List.prefix_cons_iff.1 hpart with rfl | ⟨part', rfl, hpart'⟩
    · simpa [exactSum] using hstart
    · rw [exactSum_cons, ← Int.add_assoc]
      exact h part' hpart'

/-- An amount to start from can be held. -/
theorem runningSumsHeld_cons {start a : Milli} {rest : List Milli} :
    RunningSumsHeld start.val (a :: rest) ↔ RunningSumsHeld (start.val + a.val) rest :=
  runningSumsHeld_cons_iff.trans (and_iff_right (held_val start))

/-- The last of the running sums is the exact one. -/
theorem RunningSumsHeld.total {start : Int} (h : RunningSumsHeld start amounts) :
    Held (start + exactSum amounts) :=
  h amounts (List.prefix_refl _)

/-- **A sum from the left**, counted from a start. -/
theorem foldlM_add?_eq_some_iff :
    ∀ {amounts : List Milli} {start total : Milli},
      amounts.foldlM add? start = some total ↔
        RunningSumsHeld start.val amounts ∧ total.val = start.val + exactSum amounts
  | [], start, total => by
      rw [List.foldlM_nil, exactSum_nil, Int.add_zero]
      constructor
      · rintro ⟨⟩
        exact ⟨runningSumsHeld_nil_iff.2 start.held_val, rfl⟩
      · rintro ⟨-, htotal⟩
        exact congrArg some (Bounded.ext htotal.symm)
  | a :: rest, start, total => by
      rw [List.foldlM_cons, Option.bind_eq_bind, Option.bind_eq_some_iff, runningSumsHeld_cons,
        exactSum_cons, ← Int.add_assoc]
      constructor
      · rintro ⟨next, hnext, hrest⟩
        rw [← add?_eq_some_iff.1 hnext]
        exact foldlM_add?_eq_some_iff.1 hrest
      · rintro ⟨hheld, htotal⟩
        obtain ⟨next, hnext⟩ := exists_add?_of_held hheld.start
        refine ⟨next, hnext, foldlM_add?_eq_some_iff.2 ?_⟩
        rw [add?_eq_some_iff.1 hnext]
        exact ⟨hheld, htotal⟩

theorem sum?_eq_some_iff {total : Milli} :
    sum? amounts = some total ↔ RunningSumsHeld 0 amounts ∧ total.val = exactSum amounts := by
  rw [sum?, foldlM_add?_eq_some_iff, zero, Int.zero_add]

theorem sum?_eq_none_iff : sum? amounts = none ↔ ¬ RunningSumsHeld 0 amounts := by
  rw [Option.eq_none_iff_forall_not_mem]
  constructor
  · intro h hheld
    obtain ⟨total, htotal⟩ := exists_val_of_held hheld.total
    exact h total (sum?_eq_some_iff.2 ⟨hheld, htotal.trans (Int.zero_add _)⟩)
  · intro h total htotal
    exact h (sum?_eq_some_iff.1 htotal).1

/-- **Amounts of one sign** never lead out of the range and back. -/
theorem runningSumsHeld_iff_of_sign
    (h : (∀ a ∈ amounts, 0 ≤ a.val) ∨ ∀ a ∈ amounts, a.val ≤ 0) :
    RunningSumsHeld 0 amounts ↔ Held (exactSum amounts) := by
  constructor
  · intro hheld
    simpa using hheld.total
  · rintro ⟨hlow, hhigh⟩ part ⟨rest, rfl⟩
    rw [exactSum_append] at hlow hhigh
    rw [Held]
    rcases h with hpos | hneg
    · have hpart : 0 ≤ exactSum part := exactSum_nonneg fun a hmem => hpos a (by simp [hmem])
      have hrest : 0 ≤ exactSum rest := exactSum_nonneg fun a hmem => hpos a (by simp [hmem])
      omega
    · have hpart : exactSum part ≤ 0 := exactSum_nonpos fun a hmem => hneg a (by simp [hmem])
      have hrest : exactSum rest ≤ 0 := exactSum_nonpos fun a hmem => hneg a (by simp [hmem])
      omega

/-- From a sum that can be held toward another that can, there is an amount that can be added next:
one against the sign of the sum if there is one, and else any. -/
theorem exists_next {start : Int} (hne : amounts ≠ []) (hstart : Held start)
    (htotal : Held (start + exactSum amounts)) : ∃ a ∈ amounts, Held (start + a.val) := by
  obtain ⟨first, rest, rfl⟩ := List.exists_cons_of_ne_nil hne
  rw [exactSum_cons] at htotal
  unfold Held at *
  rcases Int.le_total 0 start with hsign | hsign
  · by_cases hagainst : ∃ a ∈ first :: rest, a.val ≤ 0
    · obtain ⟨a, hmem, hle⟩ := hagainst
      have := a.low_le
      exact ⟨a, hmem, by omega, by omega⟩
    · push Not at hagainst
      have hfirst := hagainst first List.mem_cons_self
      have hrest : 0 ≤ exactSum rest :=
        exactSum_nonneg fun a hmem => (hagainst a (List.mem_cons_of_mem _ hmem)).le
      exact ⟨first, List.mem_cons_self, by omega, by omega⟩
  · by_cases hagainst : ∃ a ∈ first :: rest, 0 ≤ a.val
    · obtain ⟨a, hmem, hle⟩ := hagainst
      have := a.le_high
      exact ⟨a, hmem, by omega, by omega⟩
    · push Not at hagainst
      have hfirst := hagainst first List.mem_cons_self
      have hrest : exactSum rest ≤ 0 :=
        exactSum_nonpos fun a hmem => (hagainst a (List.mem_cons_of_mem _ hmem)).le
      exact ⟨first, List.mem_cons_self, by omega, by omega⟩

/-- **A sum that can be held can be reached**: there is an order of the amounts in which every sum
from the left can be held. -/
theorem exists_order {amounts : List Milli} {start : Int} (hstart : Held start)
    (htotal : Held (start + exactSum amounts)) :
    ∃ order, order.Perm amounts ∧ RunningSumsHeld start order := by
  induction hn : amounts.length generalizing amounts start with
  | zero =>
      obtain rfl := List.length_eq_zero_iff.1 hn
      exact ⟨[], .nil, runningSumsHeld_nil_iff.2 hstart⟩
  | succ n ih =>
      have hne : amounts ≠ [] := by
        rintro rfl
        cases hn
      obtain ⟨a, hmem, hnext⟩ := exists_next hne hstart htotal
      have hperm : amounts.Perm (a :: amounts.erase a) := List.perm_cons_erase hmem
      rw [exactSum_perm hperm, exactSum_cons, ← Int.add_assoc] at htotal
      have hlength : (amounts.erase a).length = n := by
        rw [List.length_erase_of_mem hmem, hn, Nat.add_sub_cancel]
      obtain ⟨order, horder, hheld⟩ := ih hnext htotal hlength
      exact ⟨a :: order, (horder.cons a).trans hperm.symm,
        runningSumsHeld_cons_iff.2 ⟨hstart, hheld⟩⟩

end ScaleMetrics.Milli
