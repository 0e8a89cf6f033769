import Mathlib
import ScaleMetrics.Gather
import ScaleMetrics.Telemetry.Counters

/-!
# Proofs — Counting

What the steps of runs change of counters and gauges.

Questions and events change nothing (`Step.Silent`), and a source leaves nothing else behind
(`payload_silent`).  So the steps of a specification change the counters by its outcome alone
(`run_countedSteps`): a payload sets its gauges and counts as gathered, an error counts as failed.
A run does this for its specifications in order and is observed once (`run_trail_of_resolved`); one
whose workload has no selector changes nothing (`run_trail_of_unresolved`).
-/

namespace ScaleMetrics

/-! ### Silent steps -/

/-- The step changes no counter and no gauge. -/
def Step.Silent : Step → Prop
  | .called _ | .logged _ => True
  | .gathered _ | .failed _ | .gaps _ _ | .observed => False

theorem Counters.run_of_silent {steps : List Step} (h : ∀ step ∈ steps, step.Silent)
    (counters : Counters) : counters.run steps = counters := by
  induction steps with
  | nil => rfl
  | cons step rest ih =>
      have hrest := ih fun s hmem => h s (List.mem_cons_of_mem _ hmem)
      have hstep := h step List.mem_cons_self
      cases step with
      | called call => exact hrest
      | logged event => exact hrest
      | gathered label | failed label | gaps missing ignored | observed => exact hstep.elim

namespace Trail

variable {α β : Type}

/-- The computation asks and logs, and does nothing else. -/
def Silent (x : Trail α) : Prop :=
  ∀ step ∈ x.steps, step.Silent

theorem silent_pure {a : α} : (pure a : Trail α).Silent :=
  fun _ h => nomatch h

theorem silent_ofExcept {outcome : Except GatherError α} : (ofExcept outcome).Silent :=
  fun _ h => nomatch h

theorem silent_log {event : Event} : (log event).Silent := by
  intro step h
  rw [List.mem_singleton.1 h]
  trivial

theorem silent_ask {call : Call} {context : String} {answer : Except String α} :
    (ask call context answer).Silent := by
  intro step h
  rw [List.mem_singleton.1 h]
  trivial

theorem Silent.bind {x : Trail α} {f : α → Trail β} (hx : x.Silent) (hf : ∀ a, (f a).Silent) :
    (x >>= f).Silent := by
  cases houtcome : x.outcome with
  | error e =>
      rw [bind_of_error houtcome]
      exact hx
  | ok a =>
      rw [bind_of_ok houtcome]
      intro step h
      rcases List.mem_append.1 h with h | h
      · exact hx step h
      · exact hf a step h

end Trail

/-! ### Sources -/

namespace Cluster

variable {cluster : Cluster} {target : ScaleTarget}

theorem readyPodCount_silent : (cluster.readyPodCount target).Silent :=
  Trail.silent_ask.bind fun _ => Trail.silent_log.bind fun _ => Trail.silent_pure

theorem resourceMetric_silent {windows : GraceWindows} {name : String} {kind : ResourceTarget} :
    (cluster.resourceMetric windows target name kind).Silent := by
  refine Trail.silent_ask.bind fun _ => Trail.silent_ask.bind fun pods => ?_
  split
  · exact Trail.silent_ofExcept
  · exact Trail.silent_ofExcept.bind fun _ =>
      Trail.silent_log.bind fun _ => Trail.silent_pure

theorem podsMetric_silent {name : String} {series : Selector} :
    (cluster.podsMetric target name series).Silent := by
  refine Trail.silent_ask.bind fun pods => ?_
  split
  · exact Trail.silent_log.bind fun _ => Trail.silent_pure
  · exact Trail.silent_ask.bind fun _ => Trail.silent_pure

theorem objectMetric_silent {object : ObjectReference} {name : String} {series : Selector}
    {kind : ValueTarget} : (cluster.objectMetric target object name series kind).Silent :=
  Trail.silent_ask.bind fun _ =>
    readyPodCount_silent.bind fun _ => Trail.silent_pure

theorem externalMetric_silent {name : String} {series : Selector} {kind : ValueTarget} :
    (cluster.externalMetric target name series kind).Silent :=
  Trail.silent_ask.bind fun _ => Trail.silent_log.bind fun _ =>
    Trail.silent_ofExcept.bind fun _ =>
      readyPodCount_silent.bind fun _ => Trail.silent_pure

end Cluster

namespace Gather

theorem payload_silent (gather : Gather) (target : ScaleTarget) (source : Source) :
    (gather.payload target source).Silent := by
  cases source with
  | resource name kind =>
      exact Cluster.resourceMetric_silent.bind fun _ => Trail.silent_pure
  | pods metric =>
      exact Trail.silent_ofExcept.bind fun _ =>
        Cluster.podsMetric_silent.bind fun _ => Trail.silent_pure
  | object reference metric kind =>
      exact Trail.silent_ofExcept.bind fun _ =>
        Cluster.objectMetric_silent.bind fun _ => Trail.silent_pure
  | external metric kind =>
      exact Trail.silent_ofExcept.bind fun _ =>
        Cluster.externalMetric_silent.bind fun _ => Trail.silent_pure

end Gather

/-! ### Specifications -/

namespace Counters

/-- The counters after the outcome of a specification. -/
def addOutcome (counters : Counters) : MetricSpec × Except GatherError Payload → Counters
  | (spec, .ok payload) => (counters.run (Gather.gaps payload).steps).step (.gathered spec.label)
  | (spec, .error _) => counters.step (.failed spec.label)

/-- **One specification** changes the counters by its outcome. -/
theorem run_countedSteps (counters : Counters) (gather : Gather) (target : ScaleTarget)
    (spec : MetricSpec) :
    counters.run (gather.countedSteps target spec) =
      counters.addOutcome (spec, gather.outcome target spec) := by
  rw [Gather.countedSteps, Gather.outcome]
  cases hsource : spec.source with
  | error fault =>
      rw [Gather.gatherSpec_of_malformed hsource]
      rfl
  | ok source =>
      have hsilent := counters.run_of_silent (gather.payload_silent target source)
      cases hpayload : (gather.payload target source).outcome with
      | error e =>
          rw [Gather.gatherSpec_of_failed hsource hpayload, run_append, hsilent]
          rfl
      | ok payload =>
          rw [Gather.gatherSpec_of_gathered hsource hpayload, run_append, run_append, hsilent]
          rfl

theorem run_flatMap_countedSteps (gather : Gather) (target : ScaleTarget) :
    ∀ (specs : List MetricSpec) (counters : Counters),
      counters.run (specs.flatMap (gather.countedSteps target)) =
        (specs.map fun spec => (spec, gather.outcome target spec)).foldl addOutcome counters
  | [], _ => rfl
  | spec :: rest, counters => by
      rw [List.flatMap_cons, run_append, run_countedSteps, List.map_cons, List.foldl_cons]
      exact run_flatMap_countedSteps gather target rest _

end Counters

/-! ### Runs -/

namespace Gather

/-- A run: how it is set up, and what it is asked to gather. -/
structure Run where
  gather : Gather
  workload : Workload
  specs : List MetricSpec
  space : String
  replicas : Signed32

namespace Run

/-- What the run does, and its result. -/
def trail (run : Run) : Trail (List Metric) :=
  run.gather.run run.workload run.specs run.space run.replicas

/-- The specifications of the run, with their outcomes; there are none if the workload has no
selector. -/
def outcomes (run : Run) : List (MetricSpec × Except GatherError Payload) :=
  match run.gather.resolver run.workload with
  | .error _ => []
  | .ok selector =>
    run.specs.map fun spec => (spec, run.gather.outcome ⟨run.space, selector⟩ spec)

theorem outcomes_of_unresolved {run : Run} {e : GatherError}
    (h : run.gather.resolver run.workload = .error e) : run.outcomes = [] := by
  rw [outcomes, h]

theorem outcomes_of_resolved {run : Run} {selector : Selector}
    (h : run.gather.resolver run.workload = .ok selector) :
    run.outcomes =
      run.specs.map fun spec => (spec, run.gather.outcome ⟨run.space, selector⟩ spec) := by
  rw [outcomes, h]

end Run

end Gather

namespace Counters

open Gather

theorem run_trail_of_unresolved {run : Run} {e : GatherError}
    (h : run.gather.resolver run.workload = .error e) (counters : Counters) :
    counters.run run.trail.steps = counters := by
  rw [Run.trail, Gather.run, h]
  rfl

/-- **One run** changes the counters by the outcomes of its specifications, and is observed. -/
theorem run_trail_of_resolved {run : Run} {selector : Selector}
    (h : run.gather.resolver run.workload = .ok selector) (counters : Counters) :
    counters.run run.trail.steps = (run.outcomes.foldl addOutcome counters).step .observed := by
  have hwarning : ∀ result, ∀ step ∈ warning run.workload run.space result, step.Silent := by
    intro result step hmem
    cases result with
    | ok metrics => cases hmem
    | error e =>
        rw [List.mem_singleton.1 hmem]
        trivial
  rw [Run.trail, Gather.run, h, Run.outcomes_of_resolved h, ← run_flatMap_countedSteps]
  simp only [run_append]
  rw [run_of_silent (hwarning _)]
  rfl

end Counters

end ScaleMetrics
