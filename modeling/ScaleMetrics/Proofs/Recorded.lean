import ScaleMetrics.Proofs.Population
import ScaleMetrics.Proofs.Requests
import ScaleMetrics.Gather.Source
import ScaleMetrics.Snapshot.Recorded

/-!
# Proofs — Recorded

A recorded resource, from the snapshot to the metric.

The samples that a snapshot answers with are those of the selected pods (`get?_selectSamples`), so a
selected pod that has a name has the same sample among them as in the whole series
(`get?_selected`).  What is grouped is therefore the same as if nothing had been left out
(`ofPods_selected`), and the time is that of the latest sample of a selected pod
(`selectSamples_time`).

* `resourceMetric_ok_iff`: when there is a metric.
* `recorded_resource`: when there is one and what it is (`Describes`), for selected pods with
  distinct names.
-/

namespace ScaleMetrics

namespace Snapshot

variable {snapshot : Snapshot} {captured : Instant} {series : Series} {selector : Selector}

/-! ### Selected samples -/

theorem get?_selectSamples (name : String) :
    (snapshot.selectSamples captured series selector).1.get? name =
      if name ∈ snapshot.selectedNames selector then series.get? name else none := by
  rw [selectSamples, Dict.get?_filterKeys]
  simp

theorem mem_selectedNames {name : String} :
    name ∈ snapshot.selectedNames selector ↔
      ∃ pod ∈ snapshot.selectedPods selector, pod.metadata.name = some name :=
  List.mem_filterMap

/-- A selected pod that has a name has its sample among those selected. -/
theorem get?_selected {pod : Pod} (hmem : pod ∈ snapshot.selectedPods selector)
    (hname : pod.metadata.name.isSome) :
    (snapshot.selectSamples captured series selector).1.get? pod.name = series.get? pod.name := by
  obtain ⟨name, hname⟩ := Option.isSome_iff_exists.1 hname
  have hpod : pod.name = name := by rw [Pod.name, hname, Option.getD_some]
  rw [get?_selectSamples, if_pos]
  exact mem_selectedNames.2 ⟨pod, hmem, hpod ▸ hname⟩

/-- **Leaving samples out changes no class.** -/
theorem ofPods_selected (captured : Instant) {windows : GraceWindows} {now : Instant}
    (h : ∀ pod ∈ snapshot.selectedPods selector, pod.metadata.name.isSome) :
    Group.ofPods (snapshot.selectedPods selector)
        (snapshot.selectSamples captured series selector).1 windows now =
      Group.ofPods (snapshot.selectedPods selector) series windows now :=
  Group.ofPods_congr fun pod hmem _ => get?_selected hmem (h pod hmem)

theorem selectedNames_eq (h : ∀ pod ∈ snapshot.selectedPods selector, pod.metadata.name.isSome) :
    snapshot.selectedNames selector = (snapshot.selectedPods selector).map Pod.name := by
  rw [selectedNames, ← List.filterMap_eq_map]
  refine List.filterMap_congr fun pod hmem => ?_
  obtain ⟨name, hname⟩ := Option.isSome_iff_exists.1 (h pod hmem)
  simp [Pod.name, hname]

/-- Some of the pods has this sample. -/
def Sampled (pods : List Pod) (series : Series) (sample : Sample) : Prop :=
  ∃ pod ∈ pods, series.get? pod.name = some sample

theorem mem_times_iff (captured : Instant)
    (h : ∀ pod ∈ snapshot.selectedPods selector, pod.metadata.name.isSome) {time : Instant} :
    time ∈ (snapshot.selectSamples captured series selector).1.values.map (·.timestamp) ↔
      ∃ sample, Sampled (snapshot.selectedPods selector) series sample ∧
        sample.timestamp = time := by
  rw [List.mem_map]
  refine exists_congr fun sample => and_congr_left fun _ => ?_
  rw [Dict.mem_values]
  -- a selected name is the name of some selected pod, because these pods have names
  constructor
  · rintro ⟨name, hs⟩
    rw [get?_selectSamples, selectedNames_eq h] at hs
    split at hs
    · next hmem =>
      obtain ⟨pod, hpod, rfl⟩ := List.mem_map.1 hmem
      exact ⟨pod, hpod, hs⟩
    · cases hs
  · rintro ⟨pod, hpod, hs⟩
    exact ⟨pod.name, by rw [get?_selected hpod (h pod hpod), hs]⟩

/-- The time is that of the latest sample that some of the pods has, or else the time at which the
snapshot was loaded. -/
def LatestOr (captured : Instant) (pods : List Pod) (series : Series) (time : Instant) : Prop :=
  (∃ latest, Sampled pods series latest ∧ latest.timestamp = time ∧
    ∀ sample, Sampled pods series sample → sample.timestamp.le time = true) ∨
  (∀ sample, ¬ Sampled pods series sample) ∧ time = captured

theorem selectSamples_time
    (h : ∀ pod ∈ snapshot.selectedPods selector, pod.metadata.name.isSome) :
    LatestOr captured (snapshot.selectedPods selector) series
      (snapshot.selectSamples captured series selector).2 := by
  have htime : (snapshot.selectSamples captured series selector).2 =
      (Instant.latest? ((snapshot.selectSamples captured series selector).1.values.map
        (·.timestamp))).getD captured := rfl
  rw [htime]
  cases hlatest : Instant.latest?
      ((snapshot.selectSamples captured series selector).1.values.map (·.timestamp)) with
  | none =>
      refine .inr ⟨fun sample hs => ?_, rfl⟩
      have hmem := (mem_times_iff captured h).2 ⟨sample, hs, rfl⟩
      rw [Instant.latest?_eq_none_iff.1 hlatest] at hmem
      cases hmem
  | some time =>
      obtain ⟨hmem, hle⟩ := Instant.latest?_eq_some_iff.1 hlatest
      obtain ⟨latest, hs, heq⟩ := (mem_times_iff captured h).1 hmem
      exact .inl ⟨latest, hs, heq, fun sample hsample =>
        hle _ ((mem_times_iff captured h).2 ⟨sample, hsample, rfl⟩)⟩

end Snapshot

/-! ### The metric of a recorded resource -/

/-- The pods have names, and no two have the same. -/
structure DistinctlyNamed (pods : List Pod) : Prop where
  named : ∀ pod ∈ pods, pod.metadata.name.isSome
  distinct : (pods.map Pod.name).Nodup

theorem DistinctlyNamed.nodup_liveNames {pods : List Pod} (h : DistinctlyNamed pods) :
    (Group.liveNames pods).Nodup :=
  h.distinct.sublist (List.filter_sublist.map _)

/-- Every pod requests the resource, if the target is a share of it. -/
def Requestable (pods : List Pod) (name : String) (kind : ResourceTarget) : Prop :=
  kind = .utilization → ∀ pod ∈ pods, ∃ total, pod.Requests name total

theorem exists_requestsFor_iff {pods : List Pod} {name : String} {kind : ResourceTarget} :
    (∃ requests, Cluster.requestsFor pods name kind = .ok requests) ↔
      Requestable pods name kind := by
  cases kind with
  | averageValue => exact ⟨fun _ h => (nomatch h), fun _ => ⟨_, rfl⟩⟩
  | utilization =>
      rw [Cluster.requestsFor, Pod.exists_requests_iff, Requestable]
      exact ⟨fun h _ => h, fun h => h rfl⟩

/-- The metric is what the pods use of a resource, by the samples of the whole series. -/
structure Describes (pods : List Pod) (series : Series) (windows : GraceWindows)
    (captured now : Instant) (name : String) (kind : ResourceTarget) (metric : ResourceMetric) :
    Prop where
  /-- Every pod counts in the total. -/
  total : metric.totalPods = pods.length
  /-- The pods of each class, a pod that is not terminated having one. -/
  missing : ∀ n, n ∈ metric.missing ↔ Group.Placed series windows now pods .missing n
  ignored : ∀ n, n ∈ metric.ignored ↔ Group.Placed series windows now pods .ignored n
  samples : ∀ n sample, metric.samples.get? n = some sample ↔
    series.get? n = some sample ∧ Group.Placed series windows now pods .ready n
  /-- Each of the pods that count has its sample. -/
  ready : metric.readyPodCount = metric.samples.size
  /-- Requests are of all pods, terminated or not, each the exact sum over its containers. -/
  noRequests : kind = .averageValue → metric.requests = Dict.empty
  requests : kind = .utilization → ∀ n total, metric.requests.get? n = some total ↔
    ∃ pod ∈ pods, pod.name = n ∧ pod.Requests name total
  timestamp : Snapshot.LatestOr captured pods series metric.timestamp

namespace Snapshot

variable {snapshot : Snapshot} {captured now : Instant} {windows : GraceWindows}
  {target : ScaleTarget} {name : String} {kind : ResourceTarget}

theorem resourceMetric_of_unrecorded (h : snapshot.resourceMetrics.get? name = none) :
    ((snapshot.cluster captured now).resourceMetric windows target name kind).outcome =
      .error (.fetch ("unable to get metrics for resource " ++ name)
        ("no metrics returned from " ++ "resource" ++ " metrics API")) := by
  rw [Cluster.resourceMetric_outcome]
  simp only [cluster, client, samples, h]
  rfl

theorem resourceMetric_of_noPods {series : Series}
    (hs : snapshot.resourceMetrics.get? name = some series)
    (h : snapshot.selectedPods target.selector = []) :
    ((snapshot.cluster captured now).resourceMetric windows target name kind).outcome =
      .error .noPods := by
  rw [Cluster.resourceMetric_outcome]
  simp only [cluster, client, samples, hs, lister, h]
  rfl

theorem resourceMetric_of_recorded {series : Series}
    (hs : snapshot.resourceMetrics.get? name = some series)
    (hne : snapshot.selectedPods target.selector ≠ []) :
    ((snapshot.cluster captured now).resourceMetric windows target name kind).outcome = do
      let requests ← Cluster.requestsFor (snapshot.selectedPods target.selector) name kind
      let (selected, timestamp) := snapshot.selectSamples captured series target.selector
      let group := Group.ofPods (snapshot.selectedPods target.selector) selected windows now
      return ⟨group.ready, requests, group.readyCount, group.ignored, group.missing, group.total,
        timestamp⟩ := by
  have hsamples : (snapshot.client captured).resource name target.space target.selector =
      .ok (snapshot.selectSamples captured series target.selector) := by
    simp only [client, samples, hs]
  exact Cluster.resourceMetric_of_listed hsamples rfl hne windows kind

theorem resourceMetric_ok_iff :
    (∃ metric, ((snapshot.cluster captured now).resourceMetric windows target name kind).outcome =
      .ok metric) ↔
      (∃ series, snapshot.resourceMetrics.get? name = some series) ∧
        snapshot.selectedPods target.selector ≠ [] ∧
        Requestable (snapshot.selectedPods target.selector) name kind := by
  cases hs : snapshot.resourceMetrics.get? name with
  | none =>
      rw [resourceMetric_of_unrecorded hs]
      simp
  | some series =>
      by_cases hne : snapshot.selectedPods target.selector = []
      · rw [resourceMetric_of_noPods hs hne]
        simp [hne]
      · rw [resourceMetric_of_recorded hs hne, ← exists_requestsFor_iff]
        constructor
        · rintro ⟨metric, hmetric⟩
          obtain ⟨requests, hrequests, -⟩ := bind_eq_ok.1 hmetric
          exact ⟨⟨series, rfl⟩, hne, requests, hrequests⟩
        · rintro ⟨-, -, requests, hrequests⟩
          rw [hrequests]
          exact ⟨_, rfl⟩

/-- **A recorded resource.**  When the selected pods have distinct names, there is a metric if and
only if the resource is recorded, some pod is selected, and, for a share of them, the requests of
every pod are found; and the metric is then that of these pods by the whole recorded series. -/
theorem recorded_resource (snapshot : Snapshot) (captured now : Instant) (windows : GraceWindows)
    (target : ScaleTarget) (name : String) (kind : ResourceTarget)
    (h : DistinctlyNamed (snapshot.selectedPods target.selector)) :
    ((∃ metric, ((snapshot.cluster captured now).resourceMetric windows target name kind).outcome =
      .ok metric) ↔
      (∃ series, snapshot.resourceMetrics.get? name = some series) ∧
        snapshot.selectedPods target.selector ≠ [] ∧
        Requestable (snapshot.selectedPods target.selector) name kind) ∧
    ∀ metric series,
      ((snapshot.cluster captured now).resourceMetric windows target name kind).outcome =
        .ok metric →
      snapshot.resourceMetrics.get? name = some series →
      Describes (snapshot.selectedPods target.selector) series windows captured now name kind
        metric := by
  refine ⟨resourceMetric_ok_iff, fun metric series hmetric hs => ?_⟩
  obtain ⟨-, hne, -⟩ := resourceMetric_ok_iff.1 ⟨metric, hmetric⟩
  rw [resourceMetric_of_recorded hs hne] at hmetric
  obtain ⟨requests, hrequests, hmetric⟩ := bind_eq_ok.1 hmetric
  have haccounts := Group.accounts_ofPods (snapshot.selectedPods target.selector) series windows now
  -- the metric is of the selected samples, what it describes is the whole series
  rw [← ofPods_selected captured h.named] at haccounts
  cases hmetric
  refine ⟨haccounts.total, haccounts.missing, haccounts.ignored, haccounts.ready, ?_, ?_, ?_,
    selectSamples_time h.named⟩
  · exact congrArg Nat.cast (haccounts.size_ready h.nodup_liveNames).symm
  · rintro rfl
    exact (Except.ok.inj hrequests).symm
  · rintro rfl
    exact Pod.get?_requests hrequests h.distinct

/-! ### A snapshot of two applications -/

/-- A pod of an application that requests half a processor. -/
def appPod (name app : String) (deleted : Option Instant) : Pod where
  metadata := ⟨none, deleted, some (.ofList [("app", app)]), some name, none, []⟩
  spec := some ⟨[⟨"main", some ⟨none, some (.ofList [("cpu", "500m")]), []⟩, []⟩], []⟩
  status := none

/-- A sample taken so many seconds after the start of 1970. -/
def sampleAt (second value : Int) : Sample :=
  ⟨(Instant.of? second 0).getD .epoch, (Milli.ofInt? value).getD .zero⟩

/-- The selector of the pods of an application. -/
def appSelector (app : String) : Selector :=
  ⟨[.equals "app" app]⟩

/-- The samples of `shop`, of which the latest is of the other application. -/
def shopSeries : Series :=
  .ofList [("web-0", sampleAt 60 250), ("web-2", sampleAt 70 900), ("db-0", sampleAt 80 100)]

/-- One application has a pod with a sample, a pod without one and a pod that is being deleted. -/
def shop : Snapshot where
  space := none
  workload := .unstructured
    ⟨none, .empty, [("spec", .object [("selector", .object [("app", .string "web")])])]⟩
  replicas := ⟨2, by decide, by decide⟩
  specs := [⟨none, none, none, none, some ⟨"cpu", ⟨none, none, "Utilization", none⟩⟩, "Resource"⟩]
  pods := [appPod "web-0" "web" none, appPod "db-0" "db" none, appPod "web-1" "web" none,
    appPod "web-2" "web" (some .epoch)]
  resourceMetrics := .ofList [("cpu", shopSeries)]
  podMetrics := .empty
  objectMetrics := []
  externalMetrics := []

theorem recorded_resource_shop :
    DistinctlyNamed (shop.selectedPods (appSelector "web")) ∧
    ∃ metric, ((shop.cluster .epoch .epoch).resourceMetric .disabled ⟨"shop", appSelector "web"⟩
        "cpu" .utilization).outcome = .ok metric ∧
      Describes (shop.selectedPods (appSelector "web")) shopSeries .disabled .epoch .epoch "cpu"
        .utilization metric := by
  have hdistinct : DistinctlyNamed (shop.selectedPods (appSelector "web")) :=
    ⟨by decide, by decide⟩
  have hrequests : Requestable (shop.selectedPods (appSelector "web")) "cpu" .utilization :=
    exists_requestsFor_iff.1 ⟨_, rfl⟩
  obtain ⟨hok, hdescribes⟩ := recorded_resource shop .epoch .epoch .disabled
    ⟨"shop", appSelector "web"⟩ "cpu" .utilization hdistinct
  obtain ⟨metric, hmetric⟩ := hok.2 ⟨⟨shopSeries, rfl⟩, by decide, hrequests⟩
  exact ⟨hdistinct, metric, hmetric, hdescribes metric shopSeries hmetric rfl⟩

end Snapshot

end ScaleMetrics
