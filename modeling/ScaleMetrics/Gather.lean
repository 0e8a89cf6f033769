import ScaleMetrics.Gather.Source
import ScaleMetrics.Workload

/-!
# Gather

A run over the metric specifications of a scale target.  Each specification has an outcome of its
own, and the outcomes are added to a tally one by one (`Tally`).  Those that fail are dropped from
the result, and only if all of them fail does the run fail, with the first error.
-/

namespace ScaleMetrics

/-- How the pods of a workload are found. -/
abbrev Resolver := Workload → Except GatherError Selector

/-- What a run works with. -/
structure Gather where
  cluster : Cluster
  resolver : Resolver
  windows : GraceWindows

namespace Gather

/-- The selector that narrows the series of a metric; without one, every series is meant. -/
def seriesSelector (metric : MetricIdentifier) : Except GatherError Selector :=
  match metric.selector with
  | none => .ok .everything
  | some written =>
    match written.selector with
    | .ok selector => .ok selector
    | .error fault => .error (.selector fault.message)

/-- The payload of a source, not yet with its gauges set. -/
def payload (gather : Gather) (target : ScaleTarget) : Source → Trail Payload
  | .resource name kind => do
    return .resource (← gather.cluster.resourceMetric gather.windows target name kind)
  | .pods metric => do
    let series ← Trail.ofExcept (seriesSelector metric)
    return .pods (← gather.cluster.podsMetric target metric.name series)
  | .object reference metric kind => do
    let series ← Trail.ofExcept (seriesSelector metric)
    return .object (← gather.cluster.objectMetric target reference metric.name series kind)
  | .external metric kind => do
    let series ← Trail.ofExcept (seriesSelector metric)
    return .external (← gather.cluster.externalMetric target metric.name series kind)

/-- The gauges that a payload sets. -/
def gaps : Payload → Trail Unit
  | .resource metric => .note (.gaps metric.missing.size metric.ignored.size)
  | .pods metric => .note (.gaps metric.missing.size 0)
  | .object _ => pure ()
  | .external _ => pure ()

/-- The operation that an error belongs to. -/
def context (kind : SourceKind) : String :=
  "failed to get " ++ kind.name ++ " metric"

/-- The payload of a specification. -/
def gatherSpec (gather : Gather) (target : ScaleTarget) (spec : MetricSpec) : Trail Payload :=
  match spec.source with
  | .error fault => .fail (.validation fault.message)
  | .ok source => do
    let payload ← (gather.payload target source).within (context source.kind)
    gaps payload
    return payload

section

variable {gather : Gather} {target : ScaleTarget} {spec : MetricSpec} {source : Source}

theorem outcome_gaps (payload : Payload) : (gaps payload).outcome = .ok () := by
  cases payload <;> rfl

/-- Nothing is done for a specification that is not well formed. -/
theorem gatherSpec_of_malformed {fault : MetricSpec.Fault} (h : spec.source = .error fault) :
    gather.gatherSpec target spec = ⟨[], .error (.validation fault.message)⟩ := by
  rw [gatherSpec, h]
  rfl

theorem gatherSpec_of_failed {e : GatherError} (h : spec.source = .ok source)
    (hpayload : (gather.payload target source).outcome = .error e) :
    gather.gatherSpec target spec =
      ⟨(gather.payload target source).steps, .error (.within (context source.kind) e)⟩ := by
  have hwithin : ((gather.payload target source).within (context source.kind)).outcome =
      .error (.within (context source.kind) e) := by
    rw [Trail.outcome_within, hpayload]
    rfl
  rw [gatherSpec, h]
  exact Trail.bind_of_error hwithin _

theorem gatherSpec_of_gathered {payload : Payload} (h : spec.source = .ok source)
    (hpayload : (gather.payload target source).outcome = .ok payload) :
    gather.gatherSpec target spec =
      ⟨(gather.payload target source).steps ++ (gaps payload).steps, .ok payload⟩ := by
  have hwithin : ((gather.payload target source).within (context source.kind)).outcome =
      .ok payload := by
    rw [Trail.outcome_within, hpayload]
    rfl
  rw [gatherSpec, h]
  refine (Trail.bind_of_ok hwithin _).trans ?_
  rw [Trail.bind_of_ok (outcome_gaps payload)]
  simp only [pure, List.append_nil]
  rfl

end

/-- The outcome of a specification, counted by its label. -/
def countedSteps (gather : Gather) (target : ScaleTarget) (spec : MetricSpec) : List Step :=
  let trail := gather.gatherSpec target spec
  trail.steps ++
    match trail.outcome with
    | .ok _ => [.gathered spec.label]
    | .error e =>
      [.failed spec.label,
        .logged (.metricFailed spec.label (spec.metricName?.getD "") e.message)]

/-- The outcome of a specification. -/
def outcome (gather : Gather) (target : ScaleTarget) (spec : MetricSpec) :
    Except GatherError Payload :=
  (gather.gatherSpec target spec).outcome

/-- The outcome of a well-formed specification is that of its source. -/
theorem outcome_of_source {gather : Gather} {target : ScaleTarget} {spec : MetricSpec}
    {source : Source} (h : spec.source = .ok source) :
    gather.outcome target spec =
      (gather.payload target source).outcome.mapError (.within (context source.kind)) := by
  rw [outcome]
  cases hpayload : (gather.payload target source).outcome with
  | error e =>
    rw [gatherSpec_of_failed h hpayload]
    rfl
  | ok payload =>
    rw [gatherSpec_of_gathered h hpayload]
    rfl

/-- What the outcomes met so far amount to. -/
structure Tally where
  metrics : List Metric
  /-- The error met first. -/
  first : Option GatherError
  /-- The outcomes that are errors. -/
  invalid : Nat
  deriving Repr, DecidableEq

namespace Tally

/-- No outcomes. -/
def empty : Tally :=
  ⟨[], none, 0⟩

/-- One more outcome, with its specification: a metric, or one more error. -/
def add (replicas : Signed32) (tally : Tally) :
    MetricSpec × Except GatherError Payload → Tally
  | (spec, .ok payload) =>
    { tally with metrics := tally.metrics ++ [⟨replicas, spec, payload⟩] }
  | (_, .error e) =>
    { tally with first := tally.first.or (some e), invalid := tally.invalid + 1 }

/-- The metrics, unless there is an error and all of the outcomes are errors. -/
def result (tally : Tally) (total : Nat) : Except GatherError (List Metric) :=
  match tally.first with
  | none => .ok tally.metrics
  | some first =>
    if tally.invalid = total then .error (.aggregate tally.invalid total first)
    else .ok tally.metrics

end Tally

/-- The result of the outcomes of some specifications, which are in the same order. -/
def fold (replicas : Signed32) (specs : List MetricSpec)
    (outcomes : List (Except GatherError Payload)) : Except GatherError (List Metric) :=
  ((specs.zip outcomes).foldl (Tally.add replicas) .empty).result outcomes.length

/-- The warning of a run without a result. -/
def warning (workload : Workload) (space : String) : Except GatherError (List Metric) → List Step
  | .ok _ => []
  | .error e => [.logged (.allInvalid workload.describe space e.message)]

/-- The metrics of a scale target. -/
def run (gather : Gather) (workload : Workload) (specs : List MetricSpec) (space : String)
    (replicas : Signed32) : Trail (List Metric) :=
  let resolved := Step.called (.selectorFor workload.describe)
  match gather.resolver workload with
  | .error e => ⟨[resolved], .error e⟩
  | .ok selector =>
    let target : ScaleTarget := ⟨space, selector⟩
    let result := fold replicas specs (specs.map (gather.outcome target))
    ⟨resolved :: specs.flatMap (gather.countedSteps target) ++ [.observed] ++
      warning workload space result, result⟩

end Gather

end ScaleMetrics
