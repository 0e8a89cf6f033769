import ScaleMetrics.Proofs.Population

/-!
# Proofs — Accounting

How the counts of a group and the sizes of its sets come together.  A pod is live unless it is being
deleted or has failed (`Pod.Live`); the live pods are the ones that have a class
(`length_live`).

Names are what the sets and the samples of a group are kept by, so pods that share a name are counted
once there, but every time in the count of the ready ones.

* `Accounts.balanced`: of any pods, the group holds no more than there are live ones, and its samples
  are those of the series (`Balanced`).
* `Accounts.partitioned`: of live pods with distinct names, the group holds each under one of its
  three headings (`Partitioned`).
* `ofPods_balanced`: so it is for the group of a population.
-/

namespace ScaleMetrics

variable {series : Series} {windows : GraceWindows} {now : Instant} {pods : List Pod}

/-! ### Live pods -/

namespace Pod

/-- The pod is not being deleted, and has not failed. -/
def Live (pod : Pod) : Prop :=
  pod.metadata.deletionTimestamp = none ∧ pod.phase? ≠ some "Failed"

instance : DecidablePred Live := fun pod =>
  inferInstanceAs (Decidable (pod.metadata.deletionTimestamp = none ∧ pod.phase? ≠ some "Failed"))

theorem live_iff {pod : Pod} : pod.Live ↔ pod.facts.terminated = false := by
  simp [Live, facts]

theorem classIn_eq_some_iff {pod : Pod} {c : PodClass} :
    pod.classIn series windows now = some c ↔
      pod.Live ∧ pod.facts.classify (series.get? pod.name) windows now = c := by
  rw [classIn, live_iff]
  split
  · next ht => simp [ht]
  · next ht => simp [ht]

theorem live_of_classIn {pod : Pod} {c : PodClass} (h : pod.classIn series windows now = some c) :
    pod.Live :=
  (classIn_eq_some_iff.1 h).1

theorem classIn_eq_missing_iff {pod : Pod} :
    pod.classIn series windows now = some .missing ↔ pod.Live ∧ series.get? pod.name = none := by
  rw [classIn_eq_some_iff, Facts.classify_eq_missing_iff]

theorem classIn_eq_ignored_iff {pod : Pod} :
    pod.classIn series windows now = some .ignored ↔
      pod.Live ∧ ∃ sample, series.get? pod.name = some sample ∧ pod.facts.ready = false ∧
        pod.facts.leftOut sample windows now = true := by
  rw [classIn_eq_some_iff, Facts.classify_eq_ignored_iff]

theorem classIn_eq_ready_iff {pod : Pod} :
    pod.classIn series windows now = some .ready ↔
      pod.Live ∧ ∃ sample, series.get? pod.name = some sample ∧
        (pod.facts.ready = false → pod.facts.leftOut sample windows now = false) := by
  rw [classIn_eq_some_iff, Facts.classify_eq_ready_iff]

theorem exists_classIn {pod : Pod} (h : pod.Live) :
    ∃ c, pod.classIn series windows now = some c :=
  ⟨_, classIn_eq_some_iff.2 ⟨h, rfl⟩⟩

/-- Only a pod without a sample is missing. -/
theorem sample_of_not_missing {pod : Pod} {c : PodClass} (hc : c ≠ .missing)
    (h : pod.classIn series windows now = some c) :
    ∃ sample, series.get? pod.name = some sample := by
  obtain ⟨hlive, -⟩ := classIn_eq_some_iff.1 h
  cases hs : series.get? pod.name with
  | some sample => exact ⟨sample, rfl⟩
  | none =>
      rw [classIn_eq_missing_iff.2 ⟨hlive, hs⟩] at h
      exact absurd (Option.some.inj h).symm hc

theorem no_sample_of_missing {pod : Pod} (h : pod.classIn series windows now = some .missing) :
    series.get? pod.name = none :=
  (classIn_eq_missing_iff.1 h).2

end Pod

namespace Group

/-- The live pods. -/
def live (pods : List Pod) : List Pod :=
  pods.filter Pod.Live

theorem map_name_live (pods : List Pod) : (live pods).map Pod.name = liveNames pods := by
  rw [live, liveNames]
  congr 1
  exact List.filter_congr fun pod _ => by simp [Pod.live_iff]

theorem mem_liveNames_iff {name : String} :
    name ∈ liveNames pods ↔ ∃ c, Placed series windows now pods c name := by
  rw [← map_name_live, List.mem_map]
  constructor
  · rintro ⟨pod, hmem, hname⟩
    obtain ⟨hpod, hlive⟩ := List.mem_filter.1 hmem
    obtain ⟨c, hc⟩ := Pod.exists_classIn (of_decide_eq_true hlive)
    exact ⟨c, pod, hpod, hc, hname⟩
  · rintro ⟨c, pod, hpod, hc, hname⟩
    exact ⟨pod, List.mem_filter.2 ⟨hpod, decide_eq_true (Pod.live_of_classIn hc)⟩, hname⟩

/-- Live pods with distinct names have one class a name. -/
theorem Placed.unique {c c' : PodClass} {name : String} (hn : (liveNames pods).Nodup)
    (h : Placed series windows now pods c name) (h' : Placed series windows now pods c' name) :
    c = c' := by
  obtain ⟨pod, hmem, hc, hname⟩ := h
  obtain ⟨pod', hmem', hc', hname'⟩ := h'
  have hsame : pod = pod' := by
    rw [← map_name_live] at hn
    refine List.inj_on_of_nodup_map hn ?_ ?_ (hname.trans hname'.symm)
    · exact List.mem_filter.2 ⟨hmem, decide_eq_true (Pod.live_of_classIn hc)⟩
    · exact List.mem_filter.2 ⟨hmem', decide_eq_true (Pod.live_of_classIn hc')⟩
  rw [← hsame, hc] at hc'
  exact Option.some.inj hc'

/-! ### Numbers of pods and sizes of sets -/

/-- **Every live pod has one class.** -/
theorem length_live (series : Series) (windows : GraceWindows) (now : Instant) (pods : List Pod) :
    (live pods).length =
      (namesIn series windows now .ready pods).length +
        (namesIn series windows now .ignored pods).length +
          (namesIn series windows now .missing pods).length := by
  simp only [live, namesIn, List.length_map, ← List.countP_eq_length_filter]
  induction pods with
  | nil => rfl
  | cons pod rest ih =>
      simp only [List.countP_cons, ih]
      by_cases hlive : pod.Live
      · obtain ⟨c, hc⟩ : ∃ c, pod.classIn series windows now = some c := Pod.exists_classIn hlive
        cases c <;> simp [hlive, hc] <;> omega
      · have hc : pod.classIn series windows now = none := by
          refine Pod.classIn_of_terminated ?_
          simpa [Pod.live_iff] using hlive
        simp [hlive, hc]

theorem length_live_le (pods : List Pod) : (live pods).length ≤ pods.length :=
  List.length_filter_le ..

end Group

/-- A set has no more members than a list that they are all in. -/
theorem Names.size_le {s : Names} {names : List String} (h : ∀ name ∈ s, name ∈ names) :
    s.size ≤ names.length :=
  (List.Nodup.subperm (s.sorted.imp fun hlt => (String.ne_of_lt hlt)) h).length_le

/-- A set has as many members as a list of them without repetitions. -/
theorem Names.size_eq {s : Names} {names : List String} (hn : names.Nodup)
    (h : ∀ name, name ∈ s ↔ name ∈ names) : s.size = names.length :=
  Nat.le_antisymm (size_le fun name hmem => (h name).1 hmem)
    (hn.subperm fun name hmem => (h name).2 hmem).length_le

namespace Group

/-! ### Any pods -/

/-- What holds of the group of any pods: it holds no more than the live pods, and of the series. -/
structure Balanced (series : Series) (pods : List Pod) (group : Group) : Prop where
  total : group.total = pods.length
  counted_le : group.readyCount + group.ignored.size + group.missing.size ≤ (live pods).length
  live_le : (live pods).length ≤ group.total
  missing : ∀ name ∈ group.missing, name ∉ series.keys
  ignored : ∀ name ∈ group.ignored, name ∈ series.keys
  ready : ∀ name sample, group.ready.get? name = some sample → series.get? name = some sample
  size_ready_le : group.ready.size ≤ group.readyCount

/-- What holds of the group of live pods with distinct names: each is under one heading. -/
structure Partitioned (pods : List Pod) (group : Group) : Prop where
  counted : group.readyCount + group.ignored.size + group.missing.size = (live pods).length
  size_ready : group.ready.size = group.readyCount
  ready_ignored : ∀ name ∈ group.ready.keys, name ∉ group.ignored
  ready_missing : ∀ name ∈ group.ready.keys, name ∉ group.missing
  ignored_missing : ∀ name ∈ group.ignored, name ∉ group.missing
  names : ∀ name, name ∈ group.ready.keys ∨ name ∈ group.ignored ∨ name ∈ group.missing ↔
    name ∈ (live pods).map Pod.name

namespace Accounts

variable {group : Group}

theorem length_ready (h : Accounts series windows now pods group) :
    group.readyCount = (namesIn series windows now .ready pods).length := by
  rw [h.readyCount, namesIn, List.length_map, List.countP_eq_length_filter]

theorem mem_keys_ready (h : Accounts series windows now pods group) {name : String} :
    name ∈ group.ready.keys ↔ Placed series windows now pods .ready name := by
  rw [Dict.mem_keys]
  constructor
  · rintro ⟨sample, hs⟩
    exact ((h.ready name sample).1 hs).2
  · intro hplaced
    have ⟨pod, _, hc, hname⟩ := hplaced
    obtain ⟨sample, hs⟩ := Pod.sample_of_ready hc
    exact ⟨sample, (h.ready name sample).2 ⟨hname ▸ hs, hplaced⟩⟩

/-- **The group of any pods.** -/
theorem balanced (h : Accounts series windows now pods group) : Balanced series pods group where
  total := h.total
  counted_le := by
    have hignored : group.ignored.size ≤ (namesIn series windows now .ignored pods).length :=
      Names.size_le fun name hmem => mem_namesIn.2 ((h.ignored name).1 hmem)
    have hmissing : group.missing.size ≤ (namesIn series windows now .missing pods).length :=
      Names.size_le fun name hmem => mem_namesIn.2 ((h.missing name).1 hmem)
    have hready := h.length_ready
    rw [length_live series windows now]
    omega
  live_le := h.total ▸ length_live_le pods
  missing := by
    intro name hmem hkey
    obtain ⟨pod, -, hc, rfl⟩ := (h.missing name).1 hmem
    obtain ⟨sample, hs⟩ := Dict.mem_keys.1 hkey
    rw [Pod.no_sample_of_missing hc] at hs
    cases hs
  ignored := by
    intro name hmem
    obtain ⟨pod, -, hc, rfl⟩ := (h.ignored name).1 hmem
    exact Dict.mem_keys.2 (Pod.sample_of_not_missing (by decide) hc)
  ready := fun name sample hs => ((h.ready name sample).1 hs).1
  size_ready_le := by
    rw [← Dict.length_keys, h.length_ready]
    refine (List.Nodup.subperm (Dict.nodup_keys _) fun name hmem => ?_).length_le
    exact mem_namesIn.2 (h.mem_keys_ready.1 hmem)

/-- **The group of live pods with distinct names.** -/
theorem partitioned (h : Accounts series windows now pods group) (hn : (liveNames pods).Nodup) :
    Partitioned pods group where
  counted := by
    have hignored : group.ignored.size = (namesIn series windows now .ignored pods).length :=
      Names.size_eq (nodup_namesIn hn .ignored) fun name => (h.ignored name).trans mem_namesIn.symm
    have hmissing : group.missing.size = (namesIn series windows now .missing pods).length :=
      Names.size_eq (nodup_namesIn hn .missing) fun name => (h.missing name).trans mem_namesIn.symm
    rw [length_live series windows now, h.length_ready, hignored, hmissing]
  size_ready := h.size_ready hn
  ready_ignored := by
    intro name hready hignored
    cases (h.mem_keys_ready.1 hready).unique hn ((h.ignored name).1 hignored)
  ready_missing := by
    intro name hready hmissing
    cases (h.mem_keys_ready.1 hready).unique hn ((h.missing name).1 hmissing)
  ignored_missing := by
    intro name hignored hmissing
    cases ((h.ignored name).1 hignored).unique hn ((h.missing name).1 hmissing)
  names := by
    intro name
    have hlive : name ∈ liveNames pods ↔ ∃ c, Placed series windows now pods c name :=
      mem_liveNames_iff
    rw [map_name_live, hlive, h.mem_keys_ready, h.ignored, h.missing]
    constructor
    · rintro (hplaced | hplaced | hplaced) <;> exact ⟨_, hplaced⟩
    · rintro ⟨c, hplaced⟩
      cases c with
      | ready => exact .inl hplaced
      | ignored => exact .inr (.inl hplaced)
      | missing => exact .inr (.inr hplaced)

end Accounts

/-- **The accounts of a population.**  Whatever the pods, the group holds no more than the live ones,
with samples of the series; and live pods with distinct names are each under one heading of it. -/
theorem ofPods_balanced (pods : List Pod) (series : Series) (windows : GraceWindows)
    (now : Instant) :
    Balanced series pods (ofPods pods series windows now) ∧
      (((live pods).map Pod.name).Nodup → Partitioned pods (ofPods pods series windows now)) := by
  have haccounts := accounts_ofPods pods series windows now
  refine ⟨haccounts.balanced, fun hn => haccounts.partitioned ?_⟩
  rwa [map_name_live] at hn

/-! ### One pod of each kind -/

/-- A pod of a name, with a condition of readiness and a phase. -/
def namedPod (name ready phase : String) : Pod where
  metadata := ⟨some .epoch, none, none, some name, none, []⟩
  spec := none
  status := some ⟨some [⟨"Ready", ready, none, []⟩], some phase, none, []⟩

/-- A pod that serves, one that was just created, one without a sample, and one that failed and
whose name the first has taken. -/
def oneOfEach : List Pod :=
  [namedPod "web-0" "False" "Failed", namedPod "web-0" "True" "Running",
    namedPod "web-1" "False" "Running", namedPod "web-2" "True" "Running"]

/-- Samples of two of them, and of a pod that is not there. -/
def twoSamples : Series :=
  .ofList [("web-0", ⟨.epoch, .zero⟩), ("web-1", ⟨.epoch, .zero⟩), ("web-9", ⟨.epoch, .zero⟩)]

theorem ofPods_balanced_oneOfEach :
    ((live oneOfEach).map Pod.name).Nodup ∧
      Partitioned oneOfEach (ofPods oneOfEach twoSamples ⟨.zero, .ofSeconds 30⟩ .epoch) :=
  have hn : ((live oneOfEach).map Pod.name).Nodup := by decide
  ⟨hn, (ofPods_balanced oneOfEach twoSamples ⟨.zero, .ofSeconds 30⟩ .epoch).2 hn⟩

/-- Live pods that share a name are one missing pod. -/
example :
    (ofPods [namedPod "" "True" "Running", namedPod "" "True" "Running"] .empty .disabled
      .epoch).missing.size = 1 := by
  decide

end Group

end ScaleMetrics
