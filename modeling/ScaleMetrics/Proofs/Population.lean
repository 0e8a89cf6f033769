import Mathlib
import ScaleMetrics.Pod.Group

/-!
# Proofs — Population

What the group of a population holds.  `Pod.classIn` is the class of a pod among the samples of a
series, which a terminated pod does not have.

`Group.Accounts` says of a group that it is the group of some pods: its counts, its sets and its
samples, each by the classes of the pods.  One more pod keeps this (`Accounts.add`), so the group
that the pods are placed in one by one is theirs (`accounts_ofPods`).

* `Accounts.unique`: pods have one group, in whatever order they are (`ofPods_perm`).
* `Accounts.congr`: the group depends on the series only through the samples of pods that are not
  terminated.
* `Accounts.size_ready`: if these pods have distinct names, then there is a sample for each pod
  that counts.
-/

namespace ScaleMetrics

variable {series other : Series} {windows : GraceWindows} {now : Instant}

/-! ### The class of a pod -/

namespace Pod

/-- The class of the pod among the samples of a series; a terminated pod has none. -/
def classIn (series : Series) (windows : GraceWindows) (now : Instant) (pod : Pod) :
    Option PodClass :=
  if pod.facts.terminated then none
  else some (pod.facts.classify (series.get? pod.name) windows now)

variable {pod : Pod} {c : PodClass}

theorem classIn_of_terminated (h : pod.facts.terminated = true) :
    pod.classIn series windows now = none :=
  if_pos h

theorem not_terminated_of_classIn (h : pod.classIn series windows now = some c) :
    pod.facts.terminated = false := by
  cases ht : pod.facts.terminated with
  | false => rfl
  | true =>
      rw [classIn_of_terminated ht] at h
      cases h

/-- A pod that counts has a sample. -/
theorem sample_of_ready (h : pod.classIn series windows now = some .ready) :
    ∃ sample, series.get? pod.name = some sample := by
  rw [classIn, if_neg (by simp [not_terminated_of_classIn h])] at h
  cases hs : series.get? pod.name with
  | some sample => exact ⟨sample, rfl⟩
  | none =>
      rw [hs] at h
      cases h

theorem classIn_congr
    (h : pod.facts.terminated = false → series.get? pod.name = other.get? pod.name) :
    pod.classIn series windows now = pod.classIn other windows now := by
  rw [classIn, classIn]
  split
  · rfl
  · next ht => rw [h (Bool.not_eq_true _ ▸ ht)]

end Pod

namespace Group

/-! ### The group of some pods -/

/-- A pod of this class has the name. -/
def Placed (series : Series) (windows : GraceWindows) (now : Instant) (pods : List Pod)
    (c : PodClass) (name : String) : Prop :=
  ∃ pod ∈ pods, pod.classIn series windows now = some c ∧ pod.name = name

theorem placed_append {pods others : List Pod} {c : PodClass} {name : String} :
    Placed series windows now (pods ++ others) c name ↔
      Placed series windows now pods c name ∨ Placed series windows now others c name := by
  simp only [Placed, List.mem_append, or_and_right, exists_or]

theorem placed_append_singleton {pods : List Pod} {pod : Pod} {c : PodClass} {name : String} :
    Placed series windows now (pods ++ [pod]) c name ↔
      Placed series windows now pods c name ∨
        pod.classIn series windows now = some c ∧ pod.name = name := by
  rw [placed_append]
  simp only [Placed, List.mem_singleton, exists_eq_left]

/-- The group is that of the pods. -/
structure Accounts (series : Series) (windows : GraceWindows) (now : Instant) (pods : List Pod)
    (group : Group) : Prop where
  total : group.total = pods.length
  readyCount : group.readyCount =
    pods.countP fun pod => pod.classIn series windows now = some .ready
  missing : ∀ name, name ∈ group.missing ↔ Placed series windows now pods .missing name
  ignored : ∀ name, name ∈ group.ignored ↔ Placed series windows now pods .ignored name
  ready : ∀ name sample, group.ready.get? name = some sample ↔
    series.get? name = some sample ∧ Placed series windows now pods .ready name

theorem accounts_empty : Accounts series windows now [] empty where
  total := rfl
  readyCount := rfl
  missing := by simp [empty, Names.mem_def, Names.empty, Placed]
  ignored := by simp [empty, Names.mem_def, Names.empty, Placed]
  ready := by simp [empty, Placed]

theorem add_of_terminated {pod : Pod} (h : pod.facts.terminated = true) (group : Group) :
    group.add series windows now pod.facts = { group with total := group.total + 1 } := by
  rw [Group.add, if_pos h]

theorem add_of_classIn {pod : Pod} {c : PodClass} (h : pod.classIn series windows now = some c)
    (group : Group) :
    group.add series windows now pod.facts =
      ({ group with total := group.total + 1 } : Group).place pod.name (series.get? pod.name) c := by
  have ht := Pod.not_terminated_of_classIn h
  rw [Pod.classIn, if_neg (by simp [ht]), Option.some.injEq] at h
  rw [Group.add, if_neg (by simp [ht]), ← h]
  rfl

/-- **One more pod.** -/
theorem Accounts.add {pods : List Pod} {group : Group}
    (h : Accounts series windows now pods group) (pod : Pod) :
    Accounts series windows now (pods ++ [pod]) (group.add series windows now pod.facts) := by
  obtain ⟨htotal, hcount, hmissing, hignored, hready⟩ := h
  cases hc : pod.classIn series windows now with
  | none =>
      have ht : pod.facts.terminated = true := by
        rw [Pod.classIn] at hc
        split at hc
        · assumption
        · cases hc
      rw [add_of_terminated ht]
      constructor <;> simp [placed_append_singleton, hc, htotal, hcount, hmissing, hignored, hready]
  | some c =>
      rw [add_of_classIn hc]
      cases c with
      | missing =>
          constructor <;>
            simp [place, Names.mem_insert, placed_append_singleton, hc, htotal, hcount, hmissing,
              hignored, hready, or_comm, eq_comm]
      | ignored =>
          constructor <;>
            simp [place, Names.mem_insert, placed_append_singleton, hc, htotal, hcount, hmissing,
              hignored, hready, or_comm, eq_comm]
      | ready =>
          obtain ⟨sample, hs⟩ := Pod.sample_of_ready hc
          refine ⟨?_, ?_, ?_, ?_, fun name found => ?_⟩
          case refine_5 =>
            -- the one class that touches the samples: its name is either new or the pod's
            simp only [place, hs, Dict.get?_insert, placed_append_singleton, hc, true_and]
            by_cases hn : name = pod.name
            · simp [hn, hs]
            · rw [if_neg hn, hready]
              simp [Ne.symm hn]
          all_goals simp [place, placed_append_singleton, hc, htotal, hcount, hmissing, hignored]

/-- **A population**, met from the left. -/
theorem accounts_foldl :
    ∀ {met : List Pod} {group : Group} (rest : List Pod), Accounts series windows now met group →
      Accounts series windows now (met ++ rest)
        ((rest.map Pod.facts).foldl (Group.add series windows now) group)
  | met, _, [], h => by rwa [List.append_nil]
  | met, group, pod :: rest, h => by
      -- the pod at the head joins those that are met
      rw [List.append_cons]
      exact accounts_foldl rest (h.add pod)

theorem accounts_ofPods (pods : List Pod) (series : Series) (windows : GraceWindows)
    (now : Instant) :
    Accounts series windows now pods (ofPods pods series windows now) :=
  accounts_foldl pods accounts_empty

/-! ### What the group depends on -/

namespace Accounts

variable {pods : List Pod} {group : Group}

/-- **Pods have one group.** -/
theorem unique {group' : Group} (h : Accounts series windows now pods group)
    (h' : Accounts series windows now pods group') : group = group' := by
  have hcount : group.readyCount = group'.readyCount := h.readyCount.trans h'.readyCount.symm
  have htotal : group.total = group'.total := h.total.trans h'.total.symm
  have hmissing : group.missing = group'.missing :=
    Names.ext_mem fun name => (h.missing name).trans (h'.missing name).symm
  have hignored : group.ignored = group'.ignored :=
    Names.ext_mem fun name => (h.ignored name).trans (h'.ignored name).symm
  have hready : group.ready = group'.ready := Dict.ext_get? fun name => by
    refine Option.ext fun sample => ?_
    exact (h.ready name sample).trans (h'.ready name sample).symm
  cases group
  cases group'
  simp_all

/-- **The samples that matter** are those of pods that are not terminated. -/
theorem congr (h : Accounts series windows now pods group)
    (hs : ∀ pod ∈ pods, pod.facts.terminated = false →
      series.get? pod.name = other.get? pod.name) :
    Accounts other windows now pods group := by
  -- a terminated pod has no class, whatever the series
  have hclass : ∀ pod ∈ pods,
      pod.classIn series windows now = pod.classIn other windows now :=
    fun pod hmem => Pod.classIn_congr (hs pod hmem)
  have hplaced : ∀ c name, Placed series windows now pods c name ↔
      Placed other windows now pods c name := fun c name => by
    constructor <;> rintro ⟨pod, hmem, hc, hname⟩
    · exact ⟨pod, hmem, hclass pod hmem ▸ hc, hname⟩
    · exact ⟨pod, hmem, hclass pod hmem ▸ hc, hname⟩
  refine ⟨h.total, ?_, fun name => ?_, fun name => ?_, fun name sample => ?_⟩
  · rw [h.readyCount]
    refine List.countP_congr fun pod hmem => ?_
    rw [hclass pod hmem]
  · rw [h.missing, hplaced]
  · rw [h.ignored, hplaced]
  · rw [h.ready, hplaced]
    refine and_congr_left fun ⟨pod, hmem, hc, hname⟩ => ?_
    rw [← hname, hs pod hmem (Pod.not_terminated_of_classIn hc)]

/-- **The order of the pods** does not matter. -/
theorem perm {others : List Pod} (h : Accounts series windows now pods group)
    (hperm : pods.Perm others) : Accounts series windows now others group := by
  have hplaced : ∀ c name, Placed series windows now pods c name ↔
      Placed series windows now others c name := fun c name =>
    exists_congr fun pod => and_congr_left fun _ => hperm.mem_iff
  refine ⟨h.total.trans hperm.length_eq, h.readyCount.trans (hperm.countP_eq _), fun name => ?_,
    fun name => ?_, fun name sample => ?_⟩
  · rw [h.missing, hplaced]
  · rw [h.ignored, hplaced]
  · rw [h.ready, hplaced]

end Accounts

theorem ofPods_perm {pods others : List Pod} (h : pods.Perm others) :
    ofPods pods series windows now = ofPods others series windows now :=
  ((accounts_ofPods pods series windows now).perm h).unique (accounts_ofPods ..)

theorem ofPods_congr {pods : List Pod}
    (hs : ∀ pod ∈ pods, pod.facts.terminated = false →
      series.get? pod.name = other.get? pod.name) :
    ofPods pods series windows now = ofPods pods other windows now :=
  ((accounts_ofPods pods series windows now).congr hs).unique (accounts_ofPods ..)

/-! ### Counts and sizes -/

/-- The names of the pods that are not terminated. -/
def liveNames (pods : List Pod) : List String :=
  (pods.filter fun pod => !pod.facts.terminated).map Pod.name

/-- The names of the pods of a class. -/
def namesIn (series : Series) (windows : GraceWindows) (now : Instant) (c : PodClass)
    (pods : List Pod) : List String :=
  (pods.filter fun pod => pod.classIn series windows now = some c).map Pod.name

theorem mem_namesIn {pods : List Pod} {c : PodClass} {name : String} :
    name ∈ namesIn series windows now c pods ↔ Placed series windows now pods c name := by
  simp [namesIn, Placed, and_assoc]

theorem nodup_namesIn {pods : List Pod} (h : (liveNames pods).Nodup) (c : PodClass) :
    (namesIn series windows now c pods).Nodup := by
  refine h.sublist (List.Sublist.map _ (List.monotone_filter_right pods fun pod hc => ?_))
  rw [decide_eq_true_eq] at hc
  rw [Pod.not_terminated_of_classIn hc]
  rfl

theorem Accounts.size_ready {pods : List Pod} {group : Group}
    (h : Accounts series windows now pods group) (hn : (liveNames pods).Nodup) :
    group.ready.size = group.readyCount := by
  -- both lists are free of repetitions, so it is enough that they have the same members
  have hperm : group.ready.keys.Perm (namesIn series windows now .ready pods) := by
    refine (List.perm_ext_iff_of_nodup (Dict.nodup_keys _) (nodup_namesIn hn .ready)).2 fun name => ?_
    rw [Dict.mem_keys, mem_namesIn]
    constructor
    · rintro ⟨sample, hs⟩
      exact ((h.ready name sample).1 hs).2
    · intro hp
      have ⟨pod, _, hc, hname⟩ := hp
      obtain ⟨sample, hs⟩ := Pod.sample_of_ready hc
      rw [hname] at hs
      exact ⟨sample, (h.ready name sample).2 ⟨hs, hp⟩⟩
  rw [← Dict.length_keys, hperm.length_eq, namesIn, List.length_map, h.readyCount,
    List.countP_eq_length_filter]

end Group

end ScaleMetrics
