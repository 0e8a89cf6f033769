import ScaleMetrics.Proofs.Targets
import ScaleMetrics.Snapshot.Recorded

/-!
# Proofs — ExternalTotal

The value of a metric of an outside system, over a snapshot.  The recorded series that are asked for
are added from the left, and every sum on the way has to be held.

`external_value`: the metric fails when nothing was recorded for it, has the exact sum when all sums
from the left can be held, and overflows otherwise.  An exact sum that can be held is not enough
(`overflow_within_range`): it can depend on the order whether there is a value, but not which.
-/

namespace ScaleMetrics

/-! ### The recorded series -/

namespace Snapshot

/-- The values of some series. -/
def valuesOf (matching : List ExternalSample) : List Milli :=
  matching.map (·.value)

/-- The time of one of the series, and of none a later one. -/
def IsLatest (latest : Instant) (matching : List ExternalSample) : Prop :=
  (∃ sample ∈ matching, sample.timestamp = latest) ∧
    ∀ sample ∈ matching, sample.timestamp.le latest = true

/-- The pods of a selector that are running and ready. -/
def readyPods (s : Snapshot) (selector : Selector) : Nat :=
  (s.selectedPods selector).countP fun pod => pod.facts.runningAndReady

/-- The error of a metric for which nothing was recorded. -/
def notRecorded (space name : String) (series : Selector) : GatherError :=
  .fetch ("unable to get external metric " ++ space ++ "/" ++ name ++ "/\x7b" ++ series.text ++ "\x7d")
    "no metrics returned from external metrics API"

/-- The outcome of the value of a metric, when the recorded series that are asked for are these. -/
structure TotalOf (space name : String) (series : Selector) (matching : List ExternalSample)
    (ready : Nat) (outcome : Except GatherError Payload) : Prop where
  /-- Nothing was recorded. -/
  unrecorded : outcome =
      .error (.within "failed to get external metric" (notRecorded space name series)) ↔
    matching = []
  /-- The exact sum, if all sums from the left can be held, and the latest time. -/
  summed : ∀ payload, outcome = .ok payload ↔
    ∃ total latest, total.val = Milli.exactSum (valuesOf matching) ∧
      Milli.RunningSumsHeld 0 (valuesOf matching) ∧ IsLatest latest matching ∧
        payload = .external ⟨.ofValue total, some ready, latest⟩
  /-- No sum, because one from the left cannot be held. -/
  overflowed : outcome =
      .error (.within "failed to get external metric" (.overflow ("sum of external metric " ++ name))) ↔
    matching ≠ [] ∧ ¬ Milli.RunningSumsHeld 0 (valuesOf matching)

variable {s t : Snapshot} {captured now : Instant} {target : ScaleTarget} {name : String}
  {series : Selector} {matching : List ExternalSample} {latest : Instant}

theorem latest?_eq_some_iff :
    Instant.latest? (matching.map (·.timestamp)) = some latest ↔ IsLatest latest matching := by
  rw [Instant.latest?_eq_some_iff, IsLatest]
  simp

theorem IsLatest.unique {later : Instant} (h : IsLatest latest matching)
    (h' : IsLatest later matching) : latest = later :=
  Option.some.inj ((latest?_eq_some_iff.2 h).symm.trans (latest?_eq_some_iff.2 h'))

theorem exists_isLatest (h : matching ≠ []) : ∃ latest, IsLatest latest matching := by
  cases hlatest : Instant.latest? (matching.map (·.timestamp)) with
  | some latest => exact ⟨latest, latest?_eq_some_iff.1 hlatest⟩
  | none => exact absurd (List.map_eq_nil_iff.1 (Instant.latest?_eq_none_iff.1 hlatest)) h

theorem IsLatest.perm {others : List ExternalSample} (h : IsLatest latest matching)
    (hperm : matching.Perm others) : IsLatest latest others := by
  obtain ⟨⟨sample, hmem, hlatest⟩, hle⟩ := h
  exact ⟨⟨sample, hperm.mem_iff.1 hmem, hlatest⟩, fun other hother => hle other (hperm.mem_iff.2 hother)⟩

theorem externalValues_of_unrecorded (h : s.externalSeries name series = []) :
    s.externalValues name series = .error "no metrics returned from external metrics API" := by
  rw [externalValues, h]
  rfl

theorem externalValues_of_recorded (h : IsLatest latest (s.externalSeries name series)) :
    s.externalValues name series = .ok (valuesOf (s.externalSeries name series), latest) := by
  simp only [externalValues, latest?_eq_some_iff.2 h]
  rfl

theorem readyPodCount_eq :
    ((s.cluster captured now).readyPodCount target).outcome = .ok (s.readyPods target.selector) := by
  simp only [Cluster.readyPodCount, Cluster.targetPods, Trail.outcome_bind, Trail.outcome_ask]
  rfl

theorem readyPods_congr {selector : Selector} (h : t.pods = s.pods) :
    t.readyPods selector = s.readyPods selector := by
  rw [readyPods, readyPods, selectedPods, selectedPods, h]

namespace TotalOf

variable {space : String} {ready : Nat} {outcome outcome' : Except GatherError Payload}

/-- Series have one outcome. -/
theorem unique (h : TotalOf space name series matching ready outcome)
    (h' : TotalOf space name series matching ready outcome') : outcome = outcome' := by
  by_cases hnil : matching = []
  · rw [h.unrecorded.2 hnil, h'.unrecorded.2 hnil]
  by_cases hheld : Milli.RunningSumsHeld 0 (valuesOf matching)
  · obtain ⟨total, htotal⟩ := Milli.exists_val_of_held hheld.total
    obtain ⟨latest, hlatest⟩ := exists_isLatest hnil
    rw [Int.zero_add] at htotal
    rw [(h.summed _).2 ⟨total, latest, htotal, hheld, hlatest, rfl⟩,
      (h'.summed _).2 ⟨total, latest, htotal, hheld, hlatest, rfl⟩]
  · rw [h.overflowed.2 ⟨hnil, hheld⟩, h'.overflowed.2 ⟨hnil, hheld⟩]

/-- Series in two orders have one value, if they have one in each. -/
theorem payload_unique {others : List ExternalSample} {payload other : Payload}
    (h : TotalOf space name series matching ready outcome)
    (h' : TotalOf space name series others ready outcome') (hperm : matching.Perm others)
    (hpayload : outcome = .ok payload) (hother : outcome' = .ok other) : payload = other := by
  obtain ⟨total, latest, htotal, -, hlatest, rfl⟩ := (h.summed payload).1 hpayload
  obtain ⟨total', latest', htotal', -, hlatest', rfl⟩ := (h'.summed other).1 hother
  have hvalues : (valuesOf matching).Perm (valuesOf others) := hperm.map _
  rw [Milli.exactSum_perm hvalues, ← htotal'] at htotal
  rw [Bounded.ext htotal, (hlatest.perm hperm).unique hlatest']

end TotalOf

/-! ### The value of a metric -/

variable {resolver : Resolver} {windows : GraceWindows} {spec : MetricSpec}
  {metric : MetricIdentifier}

theorem externalReading_of_unrecorded (hseries : Gather.seriesSelector metric = .ok series)
    (h : s.externalSeries metric.name series = []) :
    Gather.externalReading ⟨s.cluster captured now, resolver, windows⟩ target metric =
      .error (notRecorded target.space metric.name series) := by
  have hvalues : ((s.cluster captured now).externalValues target metric.name series).outcome =
      .error (notRecorded target.space metric.name series) := by
    rw [Cluster.externalValues, Trail.outcome_ask]
    change (s.externalValues metric.name series).mapError _ = _
    rw [externalValues_of_unrecorded h]
    rfl
  exact bind_eq_error.2 (.inr ⟨series, hseries, bind_eq_error.2 (.inl hvalues)⟩)

theorem externalReading_of_recorded (hseries : Gather.seriesSelector metric = .ok series)
    (h : IsLatest latest (s.externalSeries metric.name series)) :
    Gather.externalReading ⟨s.cluster captured now, resolver, windows⟩ target metric =
      (Cluster.externalTotal metric.name (valuesOf (s.externalSeries metric.name series))).map
        fun total => (total, s.readyPods target.selector, latest) := by
  have hvalues : ((s.cluster captured now).externalValues target metric.name series).outcome =
      .ok (valuesOf (s.externalSeries metric.name series), latest) := by
    rw [Cluster.externalValues, Trail.outcome_ask]
    change (s.externalValues metric.name series).mapError _ = _
    rw [externalValues_of_recorded h]
    rfl
  cases htotal : Cluster.externalTotal metric.name
      (valuesOf (s.externalSeries metric.name series)) with
  | error e =>
      exact bind_eq_error.2 (.inr ⟨series, hseries, bind_eq_error.2 (.inr ⟨_, hvalues,
        bind_eq_error.2 (.inl htotal)⟩)⟩)
  | ok total => exact bind_ok hseries (bind_ok hvalues (bind_ok htotal (bind_ok readyPodCount_eq rfl)))

/-- The outcome of the value is that of its reading. -/
theorem outcome_of_reading {gather : Gather} (hspec : spec.source = .ok (.external metric .value)) :
    gather.outcome target spec =
      ((gather.externalReading target metric).map fun (value, ready, timestamp) =>
        Payload.external ⟨.ofValue value, some ready, timestamp⟩).mapError
          (.within "failed to get external metric") := by
  rw [Gather.outcome_of_source hspec, Gather.payload_external]
  cases gather.externalReading target metric <;> rfl

theorem externalTotal_of_held {values : List Milli} {total : Milli}
    (hheld : Milli.RunningSumsHeld 0 values) (htotal : total.val = Milli.exactSum values) :
    Cluster.externalTotal name values = .ok total := by
  rw [Cluster.externalTotal, Milli.sum?_eq_some_iff.2 ⟨hheld, htotal⟩]

theorem externalTotal_of_not_held {values : List Milli} (h : ¬ Milli.RunningSumsHeld 0 values) :
    Cluster.externalTotal name values = .error (.overflow ("sum of external metric " ++ name)) := by
  rw [Cluster.externalTotal, Milli.sum?_eq_none_iff.2 h]

section

variable (hspec : spec.source = .ok (.external metric .value))
  (hseries : Gather.seriesSelector metric = .ok series)

include hspec hseries

theorem outcome_of_unrecorded (h : s.externalSeries metric.name series = []) :
    Gather.outcome ⟨s.cluster captured now, resolver, windows⟩ target spec =
      .error (.within "failed to get external metric"
        (notRecorded target.space metric.name series)) := by
  rw [outcome_of_reading hspec, externalReading_of_unrecorded hseries h]
  rfl

theorem outcome_of_held {total : Milli}
    (hlatest : IsLatest latest (s.externalSeries metric.name series))
    (hheld : Milli.RunningSumsHeld 0 (valuesOf (s.externalSeries metric.name series)))
    (htotal : total.val = Milli.exactSum (valuesOf (s.externalSeries metric.name series))) :
    Gather.outcome ⟨s.cluster captured now, resolver, windows⟩ target spec =
      .ok (.external ⟨.ofValue total, some (s.readyPods target.selector : Nat), latest⟩) := by
  rw [outcome_of_reading hspec, externalReading_of_recorded hseries hlatest,
    externalTotal_of_held hheld htotal]
  rfl

theorem outcome_of_not_held (hne : s.externalSeries metric.name series ≠ [])
    (h : ¬ Milli.RunningSumsHeld 0 (valuesOf (s.externalSeries metric.name series))) :
    Gather.outcome ⟨s.cluster captured now, resolver, windows⟩ target spec =
      .error (.within "failed to get external metric"
        (.overflow ("sum of external metric " ++ metric.name))) := by
  obtain ⟨latest, hlatest⟩ := exists_isLatest hne
  rw [outcome_of_reading hspec, externalReading_of_recorded hseries hlatest,
    externalTotal_of_not_held h]
  rfl

/-- **Every outcome of the value.** -/
theorem totalOf_outcome :
    TotalOf target.space metric.name series (s.externalSeries metric.name series)
      (s.readyPods target.selector)
      (Gather.outcome ⟨s.cluster captured now, resolver, windows⟩ target spec) := by
  by_cases hnil : s.externalSeries metric.name series = []
  · rw [outcome_of_unrecorded hspec hseries hnil, hnil]
    refine ⟨by simp, fun payload => ?_, by simp [notRecorded]⟩
    simp [IsLatest]
  by_cases hheld : Milli.RunningSumsHeld 0 (valuesOf (s.externalSeries metric.name series))
  · obtain ⟨latest, hlatest⟩ := exists_isLatest hnil
    obtain ⟨total, htotal⟩ := Milli.exists_val_of_held hheld.total
    rw [Int.zero_add] at htotal
    rw [outcome_of_held hspec hseries hlatest hheld htotal]
    refine ⟨by simp [hnil], fun payload => ⟨?_, ?_⟩, by simp [hheld]⟩
    · rintro ⟨⟩
      exact ⟨total, latest, htotal, hheld, hlatest, rfl⟩
    · rintro ⟨found, later, hfound, -, hlater, rfl⟩
      rw [Bounded.ext (htotal.trans hfound.symm), hlatest.unique hlater]
  · rw [outcome_of_not_held hspec hseries hnil hheld]
    refine ⟨by simp [hnil, notRecorded], fun payload => ?_, by simp [hnil, hheld]⟩
    simp [hheld]

end

/-- **The value of a metric of an outside system.**  Its outcome is the total of the recorded series
that are asked for (`TotalOf`), and depends on nothing else of the snapshot but the pods.  A total
that can be held is one that some order of the values comes to, and amounts of one sign come to it
in every order; another order of the series never makes another value. -/
theorem external_value (s : Snapshot) (captured now : Instant) (resolver : Resolver)
    (windows : GraceWindows) (target : ScaleTarget) {spec : MetricSpec} {metric : MetricIdentifier}
    {series : Selector} (hspec : spec.source = .ok (.external metric .value))
    (hseries : Gather.seriesSelector metric = .ok series) :
    let outcome := fun t : Snapshot =>
      Gather.outcome ⟨t.cluster captured now, resolver, windows⟩ target spec
    let matching := s.externalMetrics.filter fun sample =>
      sample.metric = metric.name ∧ series.selects sample.labels
    TotalOf target.space metric.name series matching (s.readyPods target.selector) (outcome s) ∧
    (Milli.Held (Milli.exactSum (valuesOf matching)) ↔
      ∃ order, order.Perm (valuesOf matching) ∧ Milli.RunningSumsHeld 0 order) ∧
    ((∀ a ∈ valuesOf matching, 0 ≤ a.val) ∨ (∀ a ∈ valuesOf matching, a.val ≤ 0) →
      (Milli.RunningSumsHeld 0 (valuesOf matching) ↔
        Milli.Held (Milli.exactSum (valuesOf matching)))) ∧
    ∀ t : Snapshot, t.pods = s.pods →
      (t.externalSeries metric.name series = matching → outcome t = outcome s) ∧
      ((t.externalSeries metric.name series).Perm matching →
        ∀ payload other, outcome s = .ok payload → outcome t = .ok other → payload = other) := by
  intro outcome matching
  have hmatching : matching = s.externalSeries metric.name series := by
    simp [matching, externalSeries]
  have htotalOf : ∀ t : Snapshot, TotalOf target.space metric.name series
      (t.externalSeries metric.name series) (t.readyPods target.selector) (outcome t) :=
    fun t => totalOf_outcome hspec hseries
  rw [hmatching]
  refine ⟨htotalOf s, ⟨fun hheld => ?_, ?_⟩, Milli.runningSumsHeld_iff_of_sign, fun t hpods => ⟨?_, ?_⟩⟩
  · exact Milli.exists_order (Milli.held_val .zero) (by simpa [Milli.zero] using hheld)
  · rintro ⟨order, hperm, hheld⟩
    rw [← Milli.exactSum_perm hperm]
    simpa using hheld.total
  · intro hsame
    have htotal := htotalOf t
    rw [hsame, readyPods_congr hpods] at htotal
    exact htotal.unique (htotalOf s)
  · intro hperm payload other hpayload hother
    have htotal := htotalOf t
    rw [readyPods_congr hpods] at htotal
    exact (htotalOf s).payload_unique htotal hperm.symm hpayload hother

/-! ### A sum that leaves the range and comes back -/

/-- Recorded series of `queue` with these values, after one of another metric. -/
def queueOf (values : List Int) : Snapshot where
  space := none
  workload := .unstructured ⟨none, .empty, []⟩
  replicas := ⟨5, by decide, by decide⟩
  specs := [Gather.outsideSpec "queue"]
  pods := []
  resourceMetrics := .empty
  podMetrics := .empty
  objectMetrics := []
  externalMetrics :=
    ⟨"idle", .empty, .zero, .epoch⟩ ::
      (values.filterMap Milli.ofInt?).map fun value => ⟨"queue", .empty, value, .epoch⟩

/-- The outcome of the value of `queue`. -/
def queueOutcome (s : Snapshot) : Except GatherError Payload :=
  Gather.outcome ⟨s.cluster .epoch .epoch, Workload.selector, .disabled⟩ ⟨"shop", .everything⟩
    (Gather.outsideSpec "queue")

/-- The series of `queue`. -/
def queueSeries (s : Snapshot) : List ExternalSample :=
  s.externalSeries "queue" .everything

/-- **A total that can be held can overflow**, in one order of the series and not in another. -/
theorem overflow_within_range :
    Milli.exactSum (valuesOf (queueSeries (queueOf [0x7fffffffffffffff, 1, -1]))) =
      0x7fffffffffffffff ∧
    queueOutcome (queueOf [0x7fffffffffffffff, 1, -1]) =
      .error (.within "failed to get external metric" (.overflow "sum of external metric queue")) ∧
    queueOutcome (queueOf [0x7fffffffffffffff, -1, 1]) =
      .ok (.external ⟨.ofValue ⟨0x7fffffffffffffff, by decide, by decide⟩, some 0, .epoch⟩) :=
  ⟨rfl, rfl, rfl⟩

theorem external_value_queueOf :
    (Gather.outsideSpec "queue").source = .ok (.external ⟨"queue", none⟩ .value) ∧
    Gather.seriesSelector ⟨"queue", none⟩ = .ok .everything ∧
    TotalOf "shop" "queue" .everything (queueSeries (queueOf [-3, 5, -7])) 0
      (queueOutcome (queueOf [-3, 5, -7])) ∧
    ∀ payload other, queueOutcome (queueOf [-3, 5, -7]) = .ok payload →
      queueOutcome (queueOf [5, -7, -3]) = .ok other → payload = other := by
  have hperm : (queueSeries (queueOf [5, -7, -3])).Perm (queueSeries (queueOf [-3, 5, -7])) := by
    decide
  have hspec : (Gather.outsideSpec "queue").source = .ok (.external ⟨"queue", none⟩ .value) := rfl
  have law := external_value (queueOf [-3, 5, -7]) .epoch .epoch Workload.selector .disabled
    ⟨"shop", .everything⟩ hspec rfl
  exact ⟨rfl, rfl, law.1, (law.2.2.2 (queueOf [5, -7, -3]) rfl).2 hperm⟩

end Snapshot

end ScaleMetrics
