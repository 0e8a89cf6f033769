import ScaleMetrics.Gather.Source
import ScaleMetrics.Proofs.Accounting

/-!
# Proofs — Serving

The value of an object or of an outside system is spread over the pods that serve: those that run
and report that they are ready (`Pod.Serving`).  What pods use of a resource is counted by their
classes instead, which depend on samples, windows and the clock.

The two notions agree as far as they can.  Readiness rules out that a pod is ignored, and running
that it has failed, so a pod that serves has one of two classes by its sample alone, unless it is
being deleted (`Serving.classIn_eq`).

* `Accounts.coversServing`: what the group of some pods says of those that serve
  (`CoversServing`).
* `readyPodCount_covered`: so it is for the pods that a value is spread over.
-/

namespace ScaleMetrics

variable {series : Series} {windows : GraceWindows} {now : Instant} {pods : List Pod}

/-! ### Pods that serve -/

namespace Pod

/-- The pod runs, and reports that it is ready. -/
def Serving (pod : Pod) : Prop :=
  pod.phase? = some "Running" ∧ ∃ condition, pod.readiness? = some condition ∧
    condition.status = "True"

variable {pod : Pod}

theorem serving_iff : pod.Serving ↔ pod.facts.runningAndReady = true := by
  simp [Serving, Facts.runningAndReady, facts, Option.any_eq_true]

instance : DecidablePred Serving := fun _ =>
  decidable_of_iff _ serving_iff.symm

namespace Serving

/-- A pod that runs has not failed. -/
theorem live_iff (h : pod.Serving) : pod.Live ↔ pod.metadata.deletionTimestamp = none := by
  rw [Live, h.1]
  simp

theorem ready (h : pod.Serving) : pod.facts.ready = true :=
  (Bool.and_eq_true_iff.1 (serving_iff.1 h)).2

theorem classIn_ne_ignored (h : pod.Serving) : pod.classIn series windows now ≠ some .ignored := by
  intro hc
  obtain ⟨-, -, -, hready, -⟩ := classIn_eq_ignored_iff.1 hc
  rw [h.ready] at hready
  cases hready

/-- **The class of a pod that serves** depends on its sample, and on nothing else. -/
theorem classIn_eq (h : pod.Serving) :
    pod.classIn series windows now =
      if pod.metadata.deletionTimestamp.isSome then none
      else some (if (series.get? pod.name).isSome then .ready else .missing) := by
  split
  · next hdeleted =>
    refine classIn_of_terminated ?_
    simp [facts, hdeleted]
  · next hdeleted =>
    have hlive : pod.Live := h.live_iff.2 (by simpa using hdeleted)
    split
    · next hsample =>
      obtain ⟨sample, hs⟩ := Option.isSome_iff_exists.1 hsample
      refine classIn_eq_ready_iff.2 ⟨hlive, sample, hs, fun hready => ?_⟩
      rw [h.ready] at hready
      cases hready
    · next hsample => exact classIn_eq_missing_iff.2 ⟨hlive, by simpa using hsample⟩

end Serving

end Pod

namespace Group

/-! ### Their group -/

/-- What a group says of the pods that serve, of which there are so many. -/
structure CoversServing (series : Series) (pods : List Pod) (group : Group) (count : Nat) :
    Prop where
  eq_countP : count = pods.countP fun pod => pod.Serving
  not_ignored : ∀ pod ∈ pods, pod.Serving → pod.name ∉ group.ignored
  ready : ∀ pod ∈ pods, pod.Serving → pod.metadata.deletionTimestamp = none →
    ∀ sample, series.get? pod.name = some sample → group.ready.get? pod.name = some sample
  missing : ∀ pod ∈ pods, pod.Serving → pod.metadata.deletionTimestamp = none →
    series.get? pod.name = none → pod.name ∈ group.missing
  /-- A pod that is being deleted is under no heading. -/
  terminating : ∀ pod ∈ pods, pod.Serving → pod.metadata.deletionTimestamp.isSome = true →
    pod.name ∉ group.ready.keys ∧ pod.name ∉ group.ignored ∧ pod.name ∉ group.missing
  add_ignored_le : count + group.ignored.size ≤ group.total
  le_counted : (∀ pod ∈ pods, pod.metadata.deletionTimestamp = none) →
    count ≤ group.readyCount + group.missing.size

/-- Of pods with distinct names, the one of a name is the one that has its class. -/
theorem classIn_of_placed {pod : Pod} {c : PodClass} (hn : (pods.map Pod.name).Nodup)
    (hmem : pod ∈ pods) (h : Placed series windows now pods c pod.name) :
    pod.classIn series windows now = some c := by
  obtain ⟨other, hother, hc, hname⟩ := h
  obtain rfl : other = pod := List.inj_on_of_nodup_map hn hother hmem hname
  exact hc

theorem nodup_liveNames (hn : (pods.map Pod.name).Nodup) : (liveNames pods).Nodup :=
  hn.sublist (List.filter_sublist.map _)

/-- Pods that serve and pods that are ignored are different pods. -/
theorem countP_serving_add_le (series : Series) (windows : GraceWindows) (now : Instant)
    (pods : List Pod) :
    (pods.countP fun pod => pod.Serving) + (namesIn series windows now .ignored pods).length ≤
      pods.length := by
  rw [namesIn, List.length_map, ← List.countP_eq_length_filter,
    List.length_eq_countP_add_countP fun pod : Pod => decide pod.Serving]
  refine Nat.add_le_add_left (List.countP_mono_left fun pod _ hignored => ?_) _
  simp only [decide_eq_true_eq] at hignored ⊢
  exact fun hserving => hserving.classIn_ne_ignored hignored

/-- Unless pods are being deleted, those that serve are under the other two headings. -/
theorem countP_serving_le (series : Series) (windows : GraceWindows) (now : Instant)
    (hkept : ∀ pod ∈ pods, pod.metadata.deletionTimestamp = none) :
    (pods.countP fun pod => pod.Serving) ≤
      (namesIn series windows now .ready pods).length +
        (namesIn series windows now .missing pods).length := by
  simp only [namesIn, List.length_map, ← List.countP_eq_length_filter]
  induction pods with
  | nil => exact le_rfl
  | cons pod rest ih =>
      have hrest := ih fun other hmem => hkept other (List.mem_cons_of_mem _ hmem)
      simp only [List.countP_cons]
      by_cases hserving : pod.Serving
      · have hclass : pod.classIn series windows now = some .ready ∨
            pod.classIn series windows now = some .missing := by
          rw [hserving.classIn_eq, hkept pod List.mem_cons_self]
          cases series.get? pod.name <;> simp
        rcases hclass with hclass | hclass <;> simp [hserving, hclass] <;> omega
      · simp only [hserving, decide_false, Bool.false_eq_true, if_false]
        omega

variable {group : Group}

/-- **What the group of pods with distinct names says of those that serve.** -/
theorem Accounts.coversServing (h : Accounts series windows now pods group)
    (hn : (pods.map Pod.name).Nodup) :
    CoversServing series pods group (pods.countP fun pod => pod.Serving) where
  eq_countP := rfl
  not_ignored := fun pod hmem hserving hignored =>
    hserving.classIn_ne_ignored (classIn_of_placed hn hmem ((h.ignored _).1 hignored))
  ready := fun pod hmem hserving hkept sample hs => by
    refine (h.ready _ _).2 ⟨hs, pod, hmem, ?_, rfl⟩
    rw [hserving.classIn_eq, hkept, hs]
    rfl
  missing := fun pod hmem hserving hkept hs => by
    refine (h.missing _).2 ⟨pod, hmem, ?_, rfl⟩
    rw [hserving.classIn_eq, hkept, hs]
    rfl
  terminating := fun pod hmem hserving hdeleted => by
    have hnone : ∀ c, ¬ Placed series windows now pods c pod.name := fun c hplaced => by
      have hc := classIn_of_placed hn hmem hplaced
      rw [hserving.classIn_eq, if_pos hdeleted] at hc
      cases hc
    exact ⟨fun hready => hnone _ (h.mem_keys_ready.1 hready),
      fun hignored => hnone _ ((h.ignored _).1 hignored),
      fun hmissing => hnone _ ((h.missing _).1 hmissing)⟩
  add_ignored_le := by
    have hsize : group.ignored.size ≤ (namesIn series windows now .ignored pods).length :=
      Names.size_le fun name hmem => mem_namesIn.2 ((h.ignored name).1 hmem)
    have hle := countP_serving_add_le series windows now pods
    rw [h.total]
    omega
  le_counted := fun hkept => by
    have hsize : group.missing.size = (namesIn series windows now .missing pods).length :=
      Names.size_eq (nodup_namesIn (nodup_liveNames hn) .missing) fun name =>
        (h.missing name).trans mem_namesIn.symm
    rw [h.length_ready, hsize]
    exact countP_serving_le series windows now hkept

end Group

/-! ### What a value is spread over -/

namespace Cluster

/-- **A pod that a value is spread over is never ignored** where a resource of the same pods is
measured, by whatever samples, windows and clock: of pods with distinct names, it counts if it has a
sample and is missing if it has none, unless it is being deleted.  So there are no more such pods
than are not ignored, and, while no pod is being deleted, no more than count or are missing. -/
theorem readyPodCount_covered (cluster : Cluster) (target : ScaleTarget) {pods : List Pod}
    (hlisted : cluster.pods target.space target.selector = .ok pods)
    (hn : (pods.map Pod.name).Nodup) :
    ∃ count, (cluster.readyPodCount target).outcome = .ok count ∧
      ∀ (series : Series) (windows : GraceWindows) (now : Instant),
        Group.CoversServing series pods (Group.ofPods pods series windows now) count := by
  refine ⟨pods.countP fun pod => pod.Serving, ?_, fun series windows now =>
    (Group.accounts_ofPods pods series windows now).coversServing hn⟩
  have htarget : (cluster.targetPods target).outcome = .ok pods :=
    Trail.outcome_ask_of_ok hlisted _ _
  have hserving : (pods.countP fun pod => pod.facts.runningAndReady) =
      pods.countP fun pod => pod.Serving :=
    List.countP_congr fun pod _ => by simp [Pod.serving_iff]
  rw [readyPodCount, Trail.outcome_bind, htarget, ← hserving]
  rfl

/-- A pod that serves and has a sample, one that was just created, and one that serves and has no
sample. -/
def servingPods : List Pod :=
  [Group.namedPod "web-0" "True" "Running", Group.namedPod "web-1" "False" "Running",
    Group.namedPod "web-2" "True" "Running"]

/-- A pod that serves and is being deleted. -/
def leavingPod : Pod :=
  { Group.namedPod "web-3" "True" "Running" with
    metadata := ⟨some .epoch, some .epoch, none, some "web-3", none, []⟩ }

/-- A cluster of some pods, without metrics. -/
def ofPods (pods : List Pod) : Cluster where
  client :=
    { resource := fun _ _ _ => .error "unavailable"
      raw := fun _ _ _ _ => .error "unavailable"
      object := fun _ _ _ _ => .error "unavailable"
      external := fun _ _ _ => .error "unavailable" }
  pods := fun _ _ => .ok pods
  now := .epoch

/-- With the pod that is being deleted, the pods that serve are more than those that count or are
missing. -/
theorem readyPodCount_covered_leaving :
    let windows : GraceWindows := ⟨.zero, .ofSeconds 30⟩
    let group := fun pods => Group.ofPods pods Group.twoSamples windows .epoch
    ((servingPods ++ [leavingPod]).map Pod.name).Nodup ∧
    ((ofPods (servingPods ++ [leavingPod])).readyPodCount ⟨"shop", .everything⟩).outcome = .ok 3 ∧
    Group.CoversServing Group.twoSamples (servingPods ++ [leavingPod])
      (group (servingPods ++ [leavingPod])) 3 ∧
    (group (servingPods ++ [leavingPod])).readyCount +
      (group (servingPods ++ [leavingPod])).missing.size = 2 ∧
    ((ofPods servingPods).readyPodCount ⟨"shop", .everything⟩).outcome = .ok 2 ∧
    2 ≤ (group servingPods).readyCount + (group servingPods).missing.size := by
  intro windows group
  have hn : ((servingPods ++ [leavingPod]).map Pod.name).Nodup := by decide
  obtain ⟨count, houtcome, hcovers⟩ :=
    readyPodCount_covered (ofPods (servingPods ++ [leavingPod])) ⟨"shop", .everything⟩ rfl hn
  obtain ⟨kept, hkept, hcoversKept⟩ :=
    readyPodCount_covered (ofPods servingPods) ⟨"shop", .everything⟩ rfl (by decide)
  obtain rfl : count = 3 := (hcovers Group.twoSamples windows .epoch).eq_countP
  obtain rfl : kept = 2 := (hcoversKept Group.twoSamples windows .epoch).eq_countP
  exact ⟨hn, houtcome, hcovers _ _ _, by decide, hkept,
    (hcoversKept _ _ _).le_counted (by decide)⟩

end Cluster

end ScaleMetrics
