import ScaleMetrics.Gather.Source
import ScaleMetrics.Proofs.Accounting
import ScaleMetrics.Proofs.Grace

/-!
# Proofs — NoGrace

A metric that pods report gives no pod any time, so it has no use for a set of ignored pods, and
leaves it out.  Without time nobody is ignored, whatever the clocks and the times of the pods say
(`leftOut_disabled`): a live pod counts if there is a sample of its name, and is missing if there
is none (`classIn_disabled_eq_ready_iff`).

`PodsMetric.Complete` says that of a metric; of live pods with distinct names it accounts for
every one.

* `podsMetric_complete`: the metric that is reported of some pods is complete, and a resource
  without requests that is measured by the same samples shows the same pods.
-/

namespace ScaleMetrics

namespace Facts

/-- **Without time** no pod is left out. -/
theorem leftOut_disabled (facts : Facts) (sample : Sample) (now : Instant) :
    facts.leftOut sample .disabled now = false := by
  rw [Bool.eq_false_iff]
  intro h
  rcases time_of_leftOut h with ⟨-, htime⟩ | ⟨-, htime⟩
  · exact absurd htime (by decide)
  · exact absurd htime (by decide)

/-- Without time the clock does not matter. -/
theorem classify_disabled (facts : Facts) (sample : Option Sample) (now other : Instant) :
    facts.classify sample .disabled now = facts.classify sample .disabled other := by
  cases sample with
  | none => rfl
  | some sample => rw [classify, classify, leftOut_disabled, leftOut_disabled]

end Facts

namespace Pod

variable {series : Series} {now : Instant} {pod : Pod}

theorem classIn_disabled_ne_ignored : pod.classIn series .disabled now ≠ some .ignored := by
  intro h
  obtain ⟨-, sample, -, -, hleft⟩ := classIn_eq_ignored_iff.1 h
  rw [Facts.leftOut_disabled] at hleft
  cases hleft

theorem classIn_disabled_eq_ready_iff :
    pod.classIn series .disabled now = some .ready ↔
      pod.Live ∧ (series.get? pod.name).isSome = true := by
  rw [classIn_eq_ready_iff, Option.isSome_iff_exists]
  simp only [Facts.leftOut_disabled, implies_true, and_true]

end Pod

/-! ### A population without grace -/

/-- The metric accounts for the pods by their samples alone. -/
structure PodsMetric.Complete (series : Series) (pods : List Pod) (metric : PodsMetric) : Prop where
  total : metric.totalPods = pods.length
  readyPodCount : metric.readyPodCount =
    pods.countP fun pod => pod.Live ∧ (series.get? pod.name).isSome = true
  samples : ∀ name sample, metric.samples.get? name = some sample ↔
    name ∈ (Group.live pods).map Pod.name ∧ series.get? name = some sample
  missing : ∀ name, name ∈ metric.missing ↔
    name ∈ (Group.live pods).map Pod.name ∧ series.get? name = none
  ignored : metric.ignored = none
  /-- Of live pods with distinct names, each counts or is missing. -/
  accounted : ((Group.live pods).map Pod.name).Nodup →
    metric.readyPodCount + metric.missing.size = (Group.live pods).length

namespace Group

variable {series : Series} {now : Instant} {pods : List Pod} {group : Group}

theorem mem_map_name_live {name : String} :
    name ∈ (live pods).map Pod.name ↔ ∃ pod ∈ pods, pod.Live ∧ pod.name = name := by
  simp only [live, List.mem_map, List.mem_filter, decide_eq_true_eq, and_assoc]

theorem ofPods_disabled (pods : List Pod) (series : Series) (now other : Instant) :
    ofPods pods series .disabled now = ofPods pods series .disabled other := by
  have hadd : add series .disabled now = add series .disabled other := by
    funext group facts
    simp only [add, Facts.classify_disabled facts _ now other]
  rw [ofPods, ofPods, hadd]

/-- The metric of a group. -/
def toPodsMetric (group : Group) (timestamp : Instant) : PodsMetric :=
  ⟨group.ready, group.readyCount, none, group.missing, group.total, timestamp⟩

theorem Accounts.ignored_of_disabled (h : Accounts series .disabled now pods group) :
    group.ignored = Names.empty := by
  refine Names.ext_mem fun name => ?_
  rw [h.ignored]
  constructor
  · rintro ⟨pod, -, hc, -⟩
    exact absurd hc Pod.classIn_disabled_ne_ignored
  · intro hname
    cases hname

theorem Accounts.complete (h : Accounts series .disabled now pods group) (timestamp : Instant) :
    (group.toPodsMetric timestamp).Complete series pods where
  total := h.total
  readyPodCount := by
    refine congrArg Nat.cast (h.readyCount.trans ?_)
    simp only [Pod.classIn_disabled_eq_ready_iff]
  samples := fun name sample => by
    refine (h.ready name sample).trans ?_
    rw [mem_map_name_live, and_comm]
    refine and_congr_left fun hs => exists_congr fun pod => and_congr_right fun _ => ?_
    rw [Pod.classIn_disabled_eq_ready_iff]
    constructor
    · rintro ⟨⟨hlive, -⟩, hname⟩
      exact ⟨hlive, hname⟩
    · rintro ⟨hlive, hname⟩
      exact ⟨⟨hlive, by rw [hname, hs]; rfl⟩, hname⟩
  missing := fun name => by
    refine (h.missing name).trans ?_
    rw [mem_map_name_live]
    constructor
    · rintro ⟨pod, hmem, hc, rfl⟩
      obtain ⟨hlive, hs⟩ := Pod.classIn_eq_missing_iff.1 hc
      exact ⟨⟨pod, hmem, hlive, rfl⟩, hs⟩
    · rintro ⟨⟨pod, hmem, hlive, rfl⟩, hs⟩
      exact ⟨pod, hmem, Pod.classIn_eq_missing_iff.2 ⟨hlive, hs⟩, rfl⟩
  ignored := rfl
  accounted := fun hn => by
    rw [map_name_live] at hn
    have hcounted := (h.partitioned hn).counted
    rw [h.ignored_of_disabled] at hcounted
    have hempty : Names.empty.size = 0 := rfl
    simp only [toPodsMetric]
    omega

end Group

/-! ### What is reported -/

namespace Cluster

variable {cluster : Cluster} {target : ScaleTarget} {pods : List Pod} {samples : Series}
  {timestamp : Instant}

theorem podsMetric_of_listed {name : String} {series : Selector}
    (hlisted : cluster.pods target.space target.selector = .ok pods) (hpods : pods ≠ [])
    (hsamples : cluster.client.raw name target.space target.selector series =
      .ok (samples, timestamp)) :
    (cluster.podsMetric target name series).outcome =
      .ok ((Group.ofPods pods samples .disabled cluster.now).toPodsMetric timestamp) := by
  have hisEmpty : pods.isEmpty = false := by simpa using hpods
  have htarget : (cluster.targetPods target).outcome = .ok pods :=
    Trail.outcome_ask_of_ok hlisted _ _
  have hraw : (cluster.rawSamples target name series).outcome = .ok (samples, timestamp) :=
    Trail.outcome_ask_of_ok hsamples _ _
  rw [podsMetric, Trail.outcome_bind, htarget]
  change (if pods.isEmpty then _ else _ : Trail PodsMetric).outcome = _
  rw [hisEmpty, if_neg Bool.false_ne_true, Trail.outcome_bind, hraw]
  rfl

/-- **Nothing is lost** of the pods that report a metric.  Of any pods that are listed, by any
samples and any clock, nobody is ignored, and the metric is complete.  Where the same pods are
listed and a resource is measured by the same samples, by any other clock, its metric without
requests shows the same samples, counts and missing pods if no pod is given time. -/
theorem podsMetric_complete (cluster : Cluster) (target : ScaleTarget) (name : String)
    (series : Selector) {pods : List Pod} {samples : Series} {timestamp : Instant}
    (hlisted : cluster.pods target.space target.selector = .ok pods) (hpods : pods ≠ [])
    (hsamples : cluster.client.raw name target.space target.selector series =
      .ok (samples, timestamp)) :
    (Group.ofPods pods samples .disabled cluster.now).ignored = Names.empty ∧
    ∃ metric, (cluster.podsMetric target name series).outcome = .ok metric ∧
      metric.timestamp = timestamp ∧ metric.Complete samples pods ∧
      ∀ (other : Cluster) (resource : String) (time : Instant),
        other.pods target.space target.selector = .ok pods →
        other.client.resource resource target.space target.selector = .ok (samples, time) →
        ∃ usage, (other.resourceMetric .disabled target resource .averageValue).outcome =
            .ok usage ∧
          usage.samples = metric.samples ∧ usage.readyPodCount = metric.readyPodCount ∧
          usage.missing = metric.missing ∧ usage.totalPods = metric.totalPods := by
  have haccounts := Group.accounts_ofPods pods samples .disabled cluster.now
  refine ⟨haccounts.ignored_of_disabled, _, podsMetric_of_listed hlisted hpods hsamples, rfl,
    haccounts.complete timestamp, fun other resource time hlisted' hsamples' => ?_⟩
  refine ⟨_, resourceMetric_of_listed hsamples' hlisted' hpods .disabled .averageValue, ?_⟩
  rw [Group.ofPods_disabled pods samples other.now cluster.now]
  exact ⟨rfl, rfl, rfl, rfl⟩

/-- A cluster of `Group.oneOfEach`, with samples of two of the pods. -/
def reporting : Cluster where
  client :=
    { resource := fun _ _ _ => .ok (Group.twoSamples, .epoch)
      raw := fun _ _ _ _ => .ok (Group.twoSamples, .epoch)
      object := fun _ _ _ _ => .error "unavailable"
      external := fun _ _ _ => .error "unavailable" }
  pods := fun _ _ => .ok Group.oneOfEach
  now := .epoch

theorem podsMetric_complete_reporting :
    ∃ metric usage,
      (reporting.podsMetric ⟨"shop", .everything⟩ "qps" .everything).outcome = .ok metric ∧
      metric.Complete Group.twoSamples Group.oneOfEach ∧
      metric.readyPodCount + metric.missing.size = 3 ∧
      (reporting.resourceMetric .disabled ⟨"shop", .everything⟩ "cpu" .averageValue).outcome =
        .ok usage ∧
      usage.samples = metric.samples := by
  obtain ⟨-, metric, hmetric, -, hcomplete, husage⟩ :=
    podsMetric_complete reporting ⟨"shop", .everything⟩ "qps" .everything
      rfl (List.cons_ne_nil _ _) rfl
  obtain ⟨usage, houtcome, hsamples, -⟩ := husage reporting "cpu" .epoch rfl rfl
  exact ⟨metric, usage, hmetric, hcomplete, hcomplete.accounted (by decide), houtcome, hsamples⟩

end Cluster

end ScaleMetrics
