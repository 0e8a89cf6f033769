import ScaleMetrics.Gather
import ScaleMetrics.Proofs.Recorded

/-!
# Proofs — Isolation

A run depends on a cluster only through its answers about the pods of the scale target.

* `Cluster.AgreeOn`: two clusters answer every question about a target alike.  The metric of each
  source is then the same (`resourceMetric_congr` and the others), and so is a whole run with all
  its steps (`run_congr`).
* `Snapshot.AgreeOn`: two snapshots have the same selected pods and, in each series, the same
  samples of their names.  The pods that are not selected, and the samples of other names, may be
  anything.
* `run_isolated`: runs over two such snapshots are the same.
-/

namespace ScaleMetrics

/-! ### Clusters that agree on a target -/

namespace Cluster

/-- The clusters give the same answers about the target. -/
structure AgreeOn (target : ScaleTarget) (c d : Cluster) : Prop where
  now : c.now = d.now
  pods : c.pods target.space target.selector = d.pods target.space target.selector
  resource : ∀ name, c.client.resource name target.space target.selector =
    d.client.resource name target.space target.selector
  raw : ∀ name series, c.client.raw name target.space target.selector series =
    d.client.raw name target.space target.selector series
  object : ∀ name object series, c.client.object name target.space object series =
    d.client.object name target.space object series
  external : ∀ name series, c.client.external name target.space series =
    d.client.external name target.space series

variable {target : ScaleTarget} {c d : Cluster}

theorem targetPods_congr (h : AgreeOn target c d) : c.targetPods target = d.targetPods target := by
  rw [targetPods, targetPods, h.pods]

theorem readyPodCount_congr (h : AgreeOn target c d) :
    c.readyPodCount target = d.readyPodCount target := by
  rw [readyPodCount, readyPodCount, targetPods_congr h]

theorem resourceMetric_congr (h : AgreeOn target c d) (windows : GraceWindows) (name : String)
    (kind : ResourceTarget) :
    c.resourceMetric windows target name kind = d.resourceMetric windows target name kind := by
  simp only [resourceMetric, resourceSamples, targetPods_congr h, h.resource, h.now]

theorem podsMetric_congr (h : AgreeOn target c d) (name : String) (series : Selector) :
    c.podsMetric target name series = d.podsMetric target name series := by
  simp only [podsMetric, rawSamples, targetPods_congr h, h.raw, h.now]

theorem objectMetric_congr (h : AgreeOn target c d) (object : ObjectReference) (name : String)
    (series : Selector) (kind : ValueTarget) :
    c.objectMetric target object name series kind =
      d.objectMetric target object name series kind := by
  simp only [objectMetric, objectValue, readyPodCount_congr h, h.object]

theorem externalMetric_congr (h : AgreeOn target c d) (name : String) (series : Selector)
    (kind : ValueTarget) :
    c.externalMetric target name series kind = d.externalMetric target name series kind := by
  simp only [externalMetric, externalValues, readyPodCount_congr h, h.external]

end Cluster

namespace Gather

variable {c d : Cluster} {resolver : Resolver} {windows : GraceWindows} {target : ScaleTarget}

theorem payload_congr (h : c.AgreeOn target d) (source : Source) :
    payload ⟨c, resolver, windows⟩ target source = payload ⟨d, resolver, windows⟩ target source := by
  cases source with
  | resource name kind => simp only [payload, Cluster.resourceMetric_congr h]
  | pods metric => simp only [payload, Cluster.podsMetric_congr h]
  | object reference metric kind => simp only [payload, Cluster.objectMetric_congr h]
  | external metric kind => simp only [payload, Cluster.externalMetric_congr h]

theorem gatherSpec_congr (h : c.AgreeOn target d) (spec : MetricSpec) :
    gatherSpec ⟨c, resolver, windows⟩ target spec =
      gatherSpec ⟨d, resolver, windows⟩ target spec := by
  rw [gatherSpec, gatherSpec]
  cases spec.source with
  | error fault => rfl
  | ok source => simp only [payload_congr h]

theorem outcome_congr (h : c.AgreeOn target d) (spec : MetricSpec) :
    outcome ⟨c, resolver, windows⟩ target spec = outcome ⟨d, resolver, windows⟩ target spec := by
  rw [outcome, outcome, gatherSpec_congr h]

theorem countedSteps_congr (h : c.AgreeOn target d) (spec : MetricSpec) :
    countedSteps ⟨c, resolver, windows⟩ target spec =
      countedSteps ⟨d, resolver, windows⟩ target spec := by
  simp only [countedSteps, gatherSpec_congr h]

/-- **A run reads a cluster at its target alone.** -/
theorem run_congr {workload : Workload} {space : String}
    (h : ∀ selector, resolver workload = .ok selector → c.AgreeOn ⟨space, selector⟩ d)
    (specs : List MetricSpec) (replicas : Signed32) :
    run ⟨c, resolver, windows⟩ workload specs space replicas =
      run ⟨d, resolver, windows⟩ workload specs space replicas := by
  cases hresolved : resolver workload with
  | error e => simp only [run, hresolved]
  | ok selector =>
      have hagree := h selector hresolved
      have houtcome : outcome ⟨c, resolver, windows⟩ ⟨space, selector⟩ =
          outcome ⟨d, resolver, windows⟩ ⟨space, selector⟩ := funext (outcome_congr hagree)
      have hsteps : countedSteps ⟨c, resolver, windows⟩ ⟨space, selector⟩ =
          countedSteps ⟨d, resolver, windows⟩ ⟨space, selector⟩ := funext (countedSteps_congr hagree)
      simp only [run, hresolved, houtcome, hsteps]

end Gather

/-! ### Snapshots that agree on a selector -/

/-- The maps have the same series, and in each the same samples of the names. -/
def SamplesAgree (names : List String) (d e : Dict Series) : Prop :=
  ∀ key, match d.get? key, e.get? key with
    | none, none => True
    | some x, some y => ∀ name ∈ names, x.get? name = y.get? name
    | _, _ => False

theorem samplesAgree_refl (names : List String) (d : Dict Series) : SamplesAgree names d d := by
  intro key
  cases d.get? key with
  | none => trivial
  | some x => exact fun _ _ => rfl

theorem SamplesAgree.insert {names : List String} {d e : Dict Series}
    (h : SamplesAgree names d e) (key : String) {x y : Series}
    (hxy : ∀ name ∈ names, x.get? name = y.get? name) :
    SamplesAgree names (d.insert key x) (e.insert key y) := by
  intro k
  rw [Dict.get?_insert, Dict.get?_insert]
  by_cases hk : k = key
  · rw [if_pos hk, if_pos hk]
    exact hxy
  · rw [if_neg hk, if_neg hk]
    exact h k

namespace Snapshot

/-- The snapshots have the same selected pods, the same samples of their names, and the same values
of objects and of outside systems. -/
structure AgreeOn (selector : Selector) (s t : Snapshot) : Prop where
  pods : s.selectedPods selector = t.selectedPods selector
  resource : SamplesAgree (s.selectedNames selector) s.resourceMetrics t.resourceMetrics
  raw : SamplesAgree (s.selectedNames selector) s.podMetrics t.podMetrics
  object : s.objectMetrics = t.objectMetrics
  external : s.externalMetrics = t.externalMetrics

variable {selector : Selector} {s t : Snapshot} {captured now : Instant}

theorem selectedNames_congr (h : s.selectedPods selector = t.selectedPods selector) :
    s.selectedNames selector = t.selectedNames selector := by
  rw [selectedNames, selectedNames, h]

theorem selectSamples_congr {x y : Series}
    (hpods : s.selectedPods selector = t.selectedPods selector)
    (h : ∀ name ∈ s.selectedNames selector, x.get? name = y.get? name) :
    s.selectSamples captured x selector = t.selectSamples captured y selector := by
  -- only names of selected pods pass the filter, and for these the series agree
  have hselected : x.filterKeys (s.selectedNames selector).contains =
      y.filterKeys (t.selectedNames selector).contains := by
    refine Dict.ext_get? fun name => ?_
    rw [Dict.get?_filterKeys, Dict.get?_filterKeys, ← selectedNames_congr hpods]
    split
    · next hmem => exact h name (List.contains_iff_mem.1 hmem)
    · rfl
  rw [selectSamples, selectSamples, hselected]

theorem samples_congr {d e : Dict Series}
    (hpods : s.selectedPods selector = t.selectedPods selector)
    (h : SamplesAgree (s.selectedNames selector) d e) (api name : String) :
    s.samples captured d api name selector = t.samples captured e api name selector := by
  -- a series is either in both maps or in neither
  have hname := h name
  rw [samples, samples]
  cases hd : d.get? name with
  | none =>
      cases he : e.get? name with
      | none => rfl
      | some y =>
          rw [hd, he] at hname
          exact hname.elim
  | some x =>
      cases he : e.get? name with
      | none =>
          rw [hd, he] at hname
          exact hname.elim
      | some y =>
          rw [hd, he] at hname
          simp only [selectSamples_congr hpods hname]

/-- Snapshots that agree on a selector are clusters that agree on its targets. -/
theorem AgreeOn.cluster (h : s.AgreeOn selector t) (captured now : Instant) (space : String) :
    (s.cluster captured now).AgreeOn ⟨space, selector⟩ (t.cluster captured now) where
  now := rfl
  pods := congrArg Except.ok h.pods
  resource := samples_congr h.pods h.resource "resource"
  raw := fun name _ => samples_congr h.pods h.raw "custom" name
  object := fun name object _ => by
    simp only [Snapshot.cluster, client, objectValue, h.object]
  external := fun name series => by
    simp only [Snapshot.cluster, client, externalValues, externalSeries, h.external]

/-- **Isolation.**  Two snapshots of one workload, with the same specifications and replicas, that
agree on the selector of the workload: runs over them are the same, their results and all steps on
the way to them.  If the workload has no selector, nothing need agree. -/
theorem run_isolated (s t : Snapshot) (resolver : Resolver) (windows : GraceWindows)
    (captured now : Instant) (space : String) (hworkload : s.workload = t.workload)
    (hspecs : s.specs = t.specs) (hreplicas : s.replicas = t.replicas)
    (hagree : ∀ selector, resolver s.workload = .ok selector → s.AgreeOn selector t) :
    Gather.run ⟨s.cluster captured now, resolver, windows⟩ s.workload s.specs space s.replicas =
      Gather.run ⟨t.cluster captured now, resolver, windows⟩ t.workload t.specs space
        t.replicas := by
  rw [← hworkload, ← hspecs, ← hreplicas]
  exact Gather.run_congr (fun selector h => (hagree selector h).cluster captured now space) _ _

/-- `shop` with another pod in the place of that of the other application, and with a later sample
of it. -/
def restocked : Snapshot :=
  { shop with
    pods := [appPod "web-0" "web" none, appPod "web-1" "web" none,
      appPod "web-2" "web" (some .epoch), appPod "db-1" "db" (some .epoch)]
    resourceMetrics := .ofList
      [("cpu", .ofList [("web-0", sampleAt 60 250), ("web-2", sampleAt 70 900),
        ("db-1", sampleAt 90 700)])] }

theorem run_isolated_restocked :
    shop.AgreeOn (appSelector "web") restocked ∧
    Gather.run ⟨shop.cluster .epoch .epoch, Workload.selector, .disabled⟩ shop.workload shop.specs
        "shop" shop.replicas =
      Gather.run ⟨restocked.cluster .epoch .epoch, Workload.selector, .disabled⟩ restocked.workload
        restocked.specs "shop" restocked.replicas := by
  have hagree : shop.AgreeOn (appSelector "web") restocked :=
    { pods := rfl
      resource := (samplesAgree_refl _ .empty).insert "cpu" (by decide)
      raw := samplesAgree_refl _ _
      object := rfl
      external := rfl }
  have hselector : shop.workload.selector = .ok (appSelector "web") := rfl
  refine ⟨hagree, run_isolated shop restocked Workload.selector .disabled .epoch .epoch "shop" rfl
    rfl rfl fun selector h => ?_⟩
  rw [hselector] at h
  obtain rfl : appSelector "web" = selector := Except.ok.inj h
  exact hagree

end Snapshot

end ScaleMetrics
