import ScaleMetrics.Proofs.Counting
import ScaleMetrics.Proofs.PartialFailure
import ScaleMetrics.Proofs.WellFormed

/-!
# Proofs — Gauges

What the gauges of missing and of ignored pods show after any runs.

The gauges are set together, by the payloads of resources and of metrics that pods report; the
latter ignore no pods.  So both gauges show the last payload of these two kinds (`Shows`).  One
outcome keeps this (`Shows.addOutcome`), and so does a run (`Shows.run_trail`).

* `gauges_after_runs`: the gauge of missing pods is that of the last resource or pods metric that
  was gathered.  The gauge of ignored pods is that of the last resource unless a pods metric was
  gathered after it; then it is 0.  What fails, and metrics of objects and of outside systems,
  change neither.
* `ignored_gauge_overwritten`: so the gauge of ignored pods is not always that of the last
  resource.
-/

namespace ScaleMetrics

open Gather

/-! ### Payloads that group pods -/

namespace Payload

/-- The pods without a sample. -/
def missing : Payload → Names
  | .resource metric => metric.missing
  | .pods metric => metric.missing
  | .object _ | .external _ => Names.empty

/-- The pods that are left out as starting up. -/
def ignored : Payload → Names
  | .resource metric => metric.ignored
  | .pods _ | .object _ | .external _ => Names.empty

end Payload

/-- The last of the payloads that has one of the kinds. -/
def lastOf (kinds : List SourceKind) (payloads : List Payload) : Option Payload :=
  (payloads.filter fun payload => payload.kind ∈ kinds).getLast?

theorem lastOf_append_singleton (kinds : List SourceKind) (payloads : List Payload)
    (payload : Payload) :
    lastOf kinds (payloads ++ [payload]) =
      if payload.kind ∈ kinds then some payload else lastOf kinds payloads := by
  rw [lastOf, List.filter_append, List.filter_singleton]
  split_ifs with h
  · rw [decide_eq_true h, cond_true, List.getLast?_append_of_ne_nil _ (List.cons_ne_nil _ _)]
    rfl
  · rw [decide_eq_false h, cond_false, List.append_nil]
    rfl

/-- Unless the last payload that groups pods is of a metric that they report, it is of a
resource. -/
theorem lastOf_resource {payloads : List Payload}
    (h : ∀ metric, lastOf [.resource, .pods] payloads ≠ some (.pods metric)) :
    lastOf [.resource] payloads = lastOf [.resource, .pods] payloads := by
  induction payloads using List.reverseRecOn with
  | nil => rfl
  | append_singleton payloads payload ih =>
      rw [lastOf_append_singleton] at h ⊢
      rw [lastOf_append_singleton]
      cases payload with
      | resource metric => rfl
      | pods metric => exact absurd rfl (h metric)
      | object metric => exact ih h
      | external metric => exact ih h

/-- The payloads among the outcomes, in order. -/
def payloadsOf (outcomes : List (MetricSpec × Except GatherError Payload)) : List Payload :=
  outcomes.filterMap fun outcome => outcome.2.toOption

theorem payloadsOf_cons (outcome : MetricSpec × Except GatherError Payload)
    (rest : List (MetricSpec × Except GatherError Payload)) :
    payloadsOf (outcome :: rest) = payloadsOf [outcome] ++ payloadsOf rest := by
  rw [payloadsOf, payloadsOf, payloadsOf, ← List.filterMap_append, List.singleton_append]

/-! ### The kind of a payload -/

namespace Gather

variable {gather : Gather} {target : ScaleTarget} {spec : MetricSpec} {source : Source}
  {payload : Payload}

/-- A metric that is made a payload of some kind. -/
theorem kind_eq_of_bind_pure {α : Type} {x : Trail α} {wrap : α → Payload} {kind : SourceKind}
    (hwrap : ∀ a, (wrap a).kind = kind)
    (h : (do return wrap (← x) : Trail Payload).outcome = .ok payload) : payload.kind = kind := by
  rw [Trail.outcome_bind] at h
  obtain ⟨a, -, rfl⟩ := bind_pure_eq_ok.1 h
  exact hwrap a

/-- A source has payloads of its kind. -/
theorem kind_of_payload (h : (gather.payload target source).outcome = .ok payload) :
    payload.kind = source.kind := by
  cases source with
  | resource name kind => exact kind_eq_of_bind_pure (fun _ => rfl) h
  | pods metric | object reference metric kind | external metric kind =>
      rw [Gather.payload, Trail.outcome_bind] at h
      obtain ⟨series, -, h⟩ := bind_eq_ok.1 h
      exact kind_eq_of_bind_pure (fun _ => rfl) h

theorem OutcomeOf.kind_eq (h : OutcomeOf gather target spec (.ok payload)) :
    spec.sourceKind? = some payload.kind := by
  cases h with
  | gathered hsource hpayload =>
      rw [(MetricSpec.source_eq_ok_iff.1 hsource).sourceKind?_eq, kind_of_payload hpayload]

end Gather

/-! ### What the gauges show -/

/-- The gauges show the last payload that groups pods, or else what they showed at the start. -/
structure Shows (start : Counters) (payloads : List Payload) (counters : Counters) : Prop where
  missing : counters.missing =
    (lastOf [.resource, .pods] payloads).elim start.missing fun payload => payload.missing.size
  ignored : counters.ignored =
    (lastOf [.resource, .pods] payloads).elim start.ignored fun payload => payload.ignored.size

namespace Shows

variable {start counters : Counters} {payloads : List Payload}

theorem start_self (start : Counters) : Shows start [] start :=
  ⟨rfl, rfl⟩

/-- **One more outcome.** -/
theorem addOutcome (h : Shows start payloads counters)
    (outcome : MetricSpec × Except GatherError Payload) :
    Shows start (payloads ++ payloadsOf [outcome]) (counters.addOutcome outcome) := by
  obtain ⟨spec, result⟩ := outcome
  cases result with
  | error e =>
      -- what fails adds no payload, and counts without touching the gauges
      change Shows start (payloads ++ []) _
      rw [List.append_nil]
      exact ⟨h.missing, h.ignored⟩
  | ok payload =>
      change Shows start (payloads ++ [payload]) _
      constructor <;> rw [lastOf_append_singleton]
      · cases payload with
        | resource metric | pods metric => rfl
        | object metric | external metric => exact h.missing
      · cases payload with
        | resource metric | pods metric => rfl
        | object metric | external metric => exact h.ignored

/-- **Some outcomes**, met from the left. -/
theorem foldl_addOutcome :
    ∀ {payloads : List Payload} {counters : Counters}
      (outcomes : List (MetricSpec × Except GatherError Payload)),
      Shows start payloads counters →
      Shows start (payloads ++ payloadsOf outcomes) (outcomes.foldl Counters.addOutcome counters)
  | payloads, _, [], h => by
      change Shows start (payloads ++ []) _
      rwa [List.append_nil]
  | payloads, counters, outcome :: rest, h => by
      rw [payloadsOf_cons, ← List.append_assoc, List.foldl_cons]
      exact foldl_addOutcome rest (h.addOutcome outcome)

/-- **One more run.** -/
theorem run_trail (h : Shows start payloads counters) (run : Run) :
    Shows start (payloads ++ payloadsOf run.outcomes) (counters.run run.trail.steps) := by
  cases hresolved : run.gather.resolver run.workload with
  | error e =>
      rw [Counters.run_trail_of_unresolved hresolved, Run.outcomes_of_unresolved hresolved]
      change Shows start (payloads ++ []) _
      rwa [List.append_nil]
  | ok selector =>
      rw [Counters.run_trail_of_resolved hresolved]
      have hall := foldl_addOutcome run.outcomes h
      exact ⟨hall.missing, hall.ignored⟩

end Shows

/-! ### Any runs -/

/-- The counters and gauges after some runs. -/
def Counters.afterRuns (start : Counters) (runs : List Run) : Counters :=
  start.run (runs.flatMap fun run => run.trail.steps)

/-- The payloads that some runs gathered, in order. -/
def payloadsIn (runs : List Run) : List Payload :=
  runs.flatMap fun run => payloadsOf run.outcomes

/-- **Some runs**, one after another. -/
theorem Shows.runs {start : Counters} :
    ∀ {payloads : List Payload} {counters : Counters} (runs : List Run),
      Shows start payloads counters →
      Shows start (payloads ++ payloadsIn runs) (counters.afterRuns runs)
  | payloads, _, [], h => by
      change Shows start (payloads ++ []) _
      rwa [List.append_nil]
  | payloads, counters, run :: rest, h => by
      rw [payloadsIn, List.flatMap_cons, ← List.append_assoc, Counters.afterRuns, List.flatMap_cons,
        Counters.run_append]
      exact Shows.runs rest (h.run_trail run)

/-- **The gauges after any runs.**  A payload has the kind of its specification.  Missing pods are
those of the last resource or pods metric gathered, and what was shown before without one.  Ignored
pods are those of the last resource as long as no pods metric comes after it, and none when one
does. -/
theorem gauges_after_runs (start : Counters) (runs : List Run) :
    (∀ run ∈ runs, ∀ spec payload, (spec, .ok payload) ∈ run.outcomes →
      spec.sourceKind? = some payload.kind) ∧
    (start.afterRuns runs).missing =
      (lastOf [.resource, .pods] (payloadsIn runs)).elim start.missing
        (fun payload => payload.missing.size) ∧
    ((∀ metric, lastOf [.resource, .pods] (payloadsIn runs) ≠ some (.pods metric)) →
      (start.afterRuns runs).ignored =
        (lastOf [.resource] (payloadsIn runs)).elim start.ignored
          fun payload => payload.ignored.size) ∧
    ∀ metric, lastOf [.resource, .pods] (payloadsIn runs) = some (.pods metric) →
      (start.afterRuns runs).ignored = 0 := by
  have hshows : Shows start (payloadsIn runs) (start.afterRuns runs) :=
    (Shows.start_self start).runs runs
  refine ⟨fun run _ spec payload hmem => ?_, hshows.missing, fun hlast => ?_,
    fun metric hlast => ?_⟩
  · cases hresolved : run.gather.resolver run.workload with
    | error e =>
        rw [Run.outcomes_of_unresolved hresolved] at hmem
        cases hmem
    | ok selector =>
        rw [Run.outcomes_of_resolved hresolved] at hmem
        obtain ⟨found, -, hfound⟩ := List.mem_map.1 hmem
        obtain ⟨rfl, hok⟩ := Prod.mk.inj hfound
        exact (hok ▸ outcome_spec run.gather ⟨run.space, selector⟩ found).kind_eq
  · rw [lastOf_resource hlast]
    exact hshows.ignored
  · rw [hshows.ignored, hlast]
    rfl

/-! ### A pod that is starting up -/

/-- A cluster of one pod, just created, of which every metric has a sample. -/
def starting : Gather where
  cluster :=
    { client :=
        { resource := fun _ _ _ => .ok (.ofList [("web-0", ⟨.epoch, .zero⟩)], .epoch)
          raw := fun _ _ _ _ => .ok (.ofList [("web-0", ⟨.epoch, .zero⟩)], .epoch)
          object := fun _ _ _ _ => .ok (.zero, .epoch)
          external := fun _ _ _ => .error "unavailable" }
      pods := fun _ _ => .ok [⟨⟨some .epoch, none, none, some "web-0", none, []⟩, none, none⟩]
      now := .epoch }
  resolver := fun _ => .ok .everything
  windows := ⟨.zero, .ofSeconds 30⟩

/-- A specification of a metric that pods report. -/
def podsSpec (name : String) : MetricSpec :=
  ⟨none, none, none, some ⟨⟨name, none⟩, ⟨none, none, "AverageValue", none⟩⟩, none, "Pods"⟩

/-- A run over the pod that is starting up. -/
def startingRun (specs : List MetricSpec) : Run :=
  ⟨starting, .unstructured ⟨none, .empty, []⟩, specs, "shop", ⟨1, by decide, by decide⟩⟩

/-- The pod is ignored by the resource, and no longer shown after a metric that it reports. -/
theorem ignored_gauge_overwritten :
    ¬ ∀ (start : Counters) (runs : List Run),
      (start.afterRuns runs).ignored =
        (lastOf [.resource] (payloadsIn runs)).elim start.ignored
          fun payload => payload.ignored.size := by
  intro h
  have hrun := h .zero [startingRun [resourceSpec "cpu", podsSpec "requests"]]
  exact absurd hrun (by decide)

theorem gauges_after_runs_starting :
    (∀ metric, lastOf [.resource, .pods]
      (payloadsIn [startingRun [podsSpec "requests", resourceSpec "cpu"],
        startingRun [outsideSpec "queue"]]) ≠ some (.pods metric)) ∧
    (Counters.zero.afterRuns [startingRun [podsSpec "requests", resourceSpec "cpu"],
      startingRun [outsideSpec "queue"]]).ignored = 1 := by
  have hlast : ∀ metric, lastOf [.resource, .pods]
      (payloadsIn [startingRun [podsSpec "requests", resourceSpec "cpu"],
        startingRun [outsideSpec "queue"]]) ≠ some (.pods metric) :=
    fun metric h => by cases h
  exact ⟨hlast, (gauges_after_runs .zero _).2.2.1 hlast⟩

end ScaleMetrics
