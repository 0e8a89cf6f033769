import ScaleMetrics.Proofs.Gauges
import ScaleMetrics.Proofs.Targets
import ScaleMetrics.Report.Row

/-!
# Proofs — Reported

What a metric says about itself is what was gathered for it.

A metric of a run stands for a source: the one that its specification asks for, and whose payload
it holds (`Gathered`).  Those who look at the specification, at the payload or at the row of the
metric then find the same kind, the same metric and the same target.

* `Answers`: the form of a payload, by its source; `answers_of_payload`.
* `Describes`: what the blocks of a specification say about a source; `AsksFor.describes`.
* `Report.Row.Shows`: what a row says about a payload; `shows_ofMetric`.
* `reported_is_gathered`: all three, for every metric of a run.
-/

namespace ScaleMetrics

/-! ### What a source is asked with -/

namespace Source

/-- The name of the metric, or of the resource. -/
def metricName : Source → String
  | .resource name _ => name
  | .pods metric => metric.name
  | .object _ metric _ => metric.name
  | .external metric _ => metric.name

/-- The word of a specification for the target. -/
def targetName : Source → String
  | .resource _ target => target.specName
  | .pods _ => "AverageValue"
  | .object _ _ target => target.specName
  | .external _ target => target.specName

end Source

/-! ### The payload -/

/-- The payload has the form that the source calls for: of the kind of the source, with the number
of ready pods, and with either a value or an average where there is a choice. -/
inductive Answers : Source → Payload → Prop where
  | resource (name : String) (target : ResourceTarget) (metric : ResourceMetric) :
      Answers (.resource name target) (.resource metric)
  | pods (metric : MetricIdentifier) (found : PodsMetric) : Answers (.pods metric) (.pods found)
  | object (reference : ObjectReference) (metric : MetricIdentifier) (target : ValueTarget)
      (value : Milli) (ready : Nat) (timestamp : Instant) :
      Answers (.object reference metric target)
        (.object (Cluster.valueMetric value ready timestamp target))
  | external (metric : MetricIdentifier) (target : ValueTarget) (value : Milli) (ready : Nat)
      (timestamp : Instant) :
      Answers (.external metric target)
        (.external (Cluster.valueMetric value ready timestamp target))

theorem Reading.metric_eq_ok {reading : Reading} {target : ValueTarget} {metric : ValueMetric}
    (h : reading.metric target = .ok metric) :
    ∃ value ready timestamp, metric = Cluster.valueMetric value ready timestamp target := by
  obtain ⟨⟨value, ready, timestamp⟩, -, h⟩ := bind_eq_ok.1 h
  exact ⟨value, ready, timestamp, (pure_eq_ok.1 h).symm⟩

/-- **A payload answers its source.** -/
theorem Gather.answers_of_payload {gather : Gather} {target : ScaleTarget} {source : Source}
    {payload : Payload} (h : (gather.payload target source).outcome = .ok payload) :
    Answers source payload := by
  cases source with
  | resource name kind =>
      rw [payload_resource] at h
      obtain ⟨⟨pods, metric⟩, -, h⟩ := bind_eq_ok.1 h
      obtain ⟨requests, -, rfl⟩ := bind_pure_eq_ok.1 h
      exact .resource ..
  | pods metric =>
      rw [Gather.payload, Trail.outcome_bind] at h
      obtain ⟨series, -, h⟩ := bind_eq_ok.1 h
      rw [Trail.outcome_bind] at h
      obtain ⟨found, -, rfl⟩ := bind_pure_eq_ok.1 h
      exact .pods ..
  | object reference metric kind =>
      rw [payload_object] at h
      obtain ⟨found, hfound, rfl⟩ := map_eq_ok.1 h
      obtain ⟨value, ready, timestamp, rfl⟩ := Reading.metric_eq_ok hfound
      exact .object ..
  | external metric kind =>
      rw [payload_external] at h
      obtain ⟨found, hfound, rfl⟩ := map_eq_ok.1 h
      obtain ⟨value, ready, timestamp, rfl⟩ := Reading.metric_eq_ok hfound
      exact .external ..

/-- The current value of a payload that is one value. -/
def Payload.current? : Payload → Option CurrentValue
  | .object metric => some metric.current
  | .external metric => some metric.current
  | .pods _ => none
  | .resource _ => none

/-- The samples of a payload that is a series. -/
def Payload.samples? : Payload → Option Series
  | .object _ => none
  | .external _ => none
  | .pods metric => some metric.samples
  | .resource metric => some metric.samples

namespace Answers

variable {source : Source} {payload : Payload}

theorem kind_eq (h : Answers source payload) : payload.kind = source.kind := by
  cases h <;> rfl

theorem readyPodCount? (h : Answers source payload) :
    ∃ count, payload.readyPodCount? = some count := by
  cases h with
  | resource name target metric => exact ⟨_, rfl⟩
  | pods metric found => exact ⟨_, rfl⟩
  | object reference metric target | external metric target => cases target <;> exact ⟨_, rfl⟩

/-- Of a value and an average there is the one that the target names, and not the other. -/
theorem current? (h : Answers source payload) {current : CurrentValue}
    (hcurrent : payload.current? = some current) :
    source.targetName = "Value" ∧ (∃ value, current = .ofValue value) ∨
      source.targetName = "AverageValue" ∧ ∃ average, current = .ofAverage average := by
  cases h with
  | resource name target metric => cases hcurrent
  | pods metric found => cases hcurrent
  | object reference metric target | external metric target =>
      cases hcurrent
      cases target with
      | value => exact .inl ⟨rfl, _, rfl⟩
      | averageValue => exact .inr ⟨rfl, _, rfl⟩

end Answers

/-! ### The specification -/

namespace MetricSpec

/-- The block of a kind is there. -/
def HasBlock (spec : MetricSpec) : SourceKind → Prop
  | .object => spec.object.isSome
  | .pods => spec.pods.isSome
  | .resource => spec.resource.isSome
  | .external => spec.external.isSome

/-- The specification describes the source: by its kind, by the block it has and those it has not,
and through each of the readers that look for the first block. -/
structure Describes (spec : MetricSpec) (source : Source) : Prop where
  kind : spec.kind = source.kind.specName
  block : spec.HasBlock source.kind
  only : spec.HasOnly source.kind
  label : spec.label = source.kind.name
  metricName : spec.metricName? = some source.metricName
  metricName_ne : source.metricName ≠ ""
  targetKind : spec.targetKind? = some source.targetName

theorem AsksFor.describes {spec : MetricSpec} {source : Source} (h : AsksFor spec source) :
    spec.Describes source := by
  have honly := h.hasOnly
  cases h with
  | resource hname htarget | pods hname htarget | object hname htarget | external hname htarget =>
      exact ⟨rfl, rfl, honly, rfl, rfl, hname, congrArg some htarget⟩

end MetricSpec

/-! ### The row -/

namespace Report

/-- The row shows the source that was asked and the metric that was found: each cell says what it
is about, a value as it is, and an average or the mean of a series as such.  Where the payload is
no series, or ignores no pods, nothing is said of them. -/
structure Row.Shows (colours : Bool) (asked : Source) (found : Metric) (row : Row) : Prop where
  source : row.source = asked.kind.name
  metric : row.metric = asked.metricName
  target : row.target = asked.targetName
  value : ∀ value, found.payload.current? = some (.ofValue value) →
    row.current = amount value.val
  average : ∀ average, found.payload.current? = some (.ofAverage average) →
    row.current = averageText average.val
  series : ∀ series, found.payload.samples? = some series → row.current = seriesText series
  ready : ∃ count, found.payload.readyPodCount? = some count ∧ row.ready = toString count
  missing : row.missing =
    if found.payload.samples?.isSome then gap colours found.payload.missing.size else noValue
  ignored : row.ignored =
    if found.payload.kind = .resource then gap colours found.payload.ignored.size else noValue
  replicas : row.replicas = toString found.currentReplicas.val

theorem Row.current_ofMetric {colours : Bool} {found : Metric} {current : CurrentValue}
    (h : found.payload.current? = some current) :
    (Row.ofMetric colours found).current = currentText current := by
  obtain ⟨replicas, spec, payload⟩ := found
  cases payload with
  | resource metric | pods metric => cases h
  | object metric | external metric =>
      cases h
      rfl

theorem Row.series_ofMetric {colours : Bool} {found : Metric} {series : Series}
    (h : found.payload.samples? = some series) :
    (Row.ofMetric colours found).current = seriesText series := by
  obtain ⟨replicas, spec, payload⟩ := found
  cases payload with
  | resource metric | pods metric =>
      cases h
      rfl
  | object metric | external metric => cases h

/-- **The row of a metric** that is what its specification describes. -/
theorem Row.shows_ofMetric (colours : Bool) {asked : Source} {found : Metric}
    (hspec : found.spec.Describes asked) (hpayload : Answers asked found.payload) :
    Row.Shows colours asked found (Row.ofMetric colours found) where
  source := hspec.label
  metric := congrArg (·.getD noValue) hspec.metricName
  target := congrArg (·.getD noValue) hspec.targetKind
  value _ h := Row.current_ofMetric h
  average _ h := Row.current_ofMetric h
  series _ h := Row.series_ofMetric h
  ready := by
    obtain ⟨count, hcount⟩ := hpayload.readyPodCount?
    refine ⟨count, hcount, ?_⟩
    dsimp only [ofMetric]
    rw [hcount]
  missing := by
    obtain ⟨replicas, spec, payload⟩ := found
    cases payload <;> rfl
  ignored := by
    obtain ⟨replicas, spec, payload⟩ := found
    cases payload <;> rfl
  replicas := rfl

end Report

/-! ### The metrics of a run -/

open Gather

/-- The metric holds what was gathered for the source that its specification asks for. -/
structure Metric.Gathered (run : Run) (selector : Selector) (asked : Source) (found : Metric) :
    Prop where
  spec_mem : found.spec ∈ run.specs
  source : found.spec.source = .ok asked
  payload : (run.gather.payload ⟨run.space, selector⟩ asked).outcome = .ok found.payload
  replicas : found.currentReplicas = run.replicas

theorem Gather.Run.mem_metricsOf {run : Run} {metrics : List Metric}
    (h : run.trail.outcome = .ok metrics) :
    ∃ selector, run.gather.resolver run.workload = .ok selector ∧
      metrics = metricsOf run.replicas (run.gather.outcome ⟨run.space, selector⟩) run.specs := by
  rw [Run.trail] at h
  cases hresolved : run.gather.resolver run.workload with
  | error e =>
      rw [run_of_unresolved hresolved] at h
      cases h
  | ok selector =>
      rw [run_of_resolved hresolved] at h
      refine ⟨selector, rfl, ?_⟩
      rcases someGathered_or_allFailed (run.gather.outcome ⟨run.space, selector⟩) run.specs with
        hsome | hall
      · rw [fold_of_someGathered hsome] at h
        exact (Except.ok.inj h).symm
      · -- a run in which all fail has a result only if there is nothing to gather
        cases hspecs : run.specs with
        | nil =>
            rw [hspecs] at h
            exact (Except.ok.inj h).symm
        | cons first rest =>
            rw [hspecs] at h hall
            obtain ⟨e, he⟩ := hall first List.mem_cons_self
            rw [fold_of_allFailed hall he] at h
            cases h

/-- Every metric of a run was gathered for the source that its specification asks for. -/
theorem Metric.gathered_of_mem {run : Run} {metrics : List Metric} {found : Metric}
    (h : run.trail.outcome = .ok metrics) (hmem : found ∈ metrics) :
    ∃ selector asked, run.gather.resolver run.workload = .ok selector ∧
      found.Gathered run selector asked := by
  obtain ⟨selector, hresolved, rfl⟩ := Run.mem_metricsOf h
  obtain ⟨spec, hspec, hfound⟩ := List.mem_filterMap.1 hmem
  obtain ⟨payload, hpayload, rfl⟩ := Option.map_eq_some_iff.1 hfound
  have hok := toOption_eq_some_iff.1 hpayload
  have hof := outcome_spec run.gather ⟨run.space, selector⟩ spec
  rw [hok] at hof
  cases hof with
  | gathered hsource hgathered => exact ⟨selector, _, hresolved, hspec, hsource, hgathered, rfl⟩

/-- **What is reported is what was gathered.** -/
theorem reported_is_gathered (run : Run) {metrics : List Metric}
    (h : run.trail.outcome = .ok metrics) :
    ∀ found ∈ metrics, ∃ selector asked, run.gather.resolver run.workload = .ok selector ∧
      found.Gathered run selector asked ∧
      found.payload.kind = asked.kind ∧ found.spec.Describes asked ∧
      (∃ count, found.payload.readyPodCount? = some count) ∧
      (∀ current, found.payload.current? = some current →
        asked.targetName = "Value" ∧ (∃ value, current = .ofValue value) ∨
          asked.targetName = "AverageValue" ∧ ∃ average, current = .ofAverage average) ∧
      ∀ colours, Report.Row.Shows colours asked found (Report.Row.ofMetric colours found) := by
  intro found hmem
  obtain ⟨selector, asked, hresolved, hgathered⟩ := Metric.gathered_of_mem h hmem
  have hspec := (MetricSpec.source_eq_ok_iff.1 hgathered.source).describes
  have hanswers := answers_of_payload hgathered.payload
  exact ⟨selector, asked, hresolved, hgathered, hanswers.kind_eq, hspec, hanswers.readyPodCount?,
    fun _ => hanswers.current?, fun colours => Report.Row.shows_ofMetric colours hspec hanswers⟩

/-! ### A value and its share beside a metric that fails -/

/-- A run over two ready pods, in which what pods report is not available. -/
def twoReadyRun : Run :=
  ⟨twoReady, .unstructured ⟨none, .empty, []⟩,
    [objectSpec "Value", podsSpec "requests", objectSpec "AverageValue", resourceSpec "cpu"],
    "shop", ⟨4, by decide, by decide⟩⟩

theorem reported_is_gathered_twoReady :
    ∃ metrics, twoReadyRun.trail.outcome = .ok metrics ∧ metrics.length = 3 ∧
      ∀ found ∈ metrics, ∃ selector asked, found.Gathered twoReadyRun selector asked ∧
        found.payload.kind = asked.kind ∧ found.spec.Describes asked := by
  refine ⟨_, rfl, rfl, fun found hmem => ?_⟩
  obtain ⟨selector, asked, -, hgathered, hkind, hspec, -⟩ :=
    reported_is_gathered twoReadyRun rfl found hmem
  exact ⟨selector, asked, hgathered, hkind, hspec⟩

end ScaleMetrics
