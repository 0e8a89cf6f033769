import Mathlib
import ScaleMetrics.Gather

/-!
# Proofs — Partial failure

A run over several specifications fails only when all of them do.

* `outcome_spec`: the outcome of a specification is a validation error, or what its source gives,
  an error of the source being put in the context of the source's kind.
* `Tally.accounts_foldl`: after some outcomes the tally holds the metrics of those that are
  payloads, the first of those that are errors, and how many of these there are.  One outcome
  keeps this (`Tally.Accounts.add`), so a run over a list does.
* `run_partial_failure`: the result of a run, by its outcomes.  A selector that does not resolve is
  the error of the run; one payload among the outcomes is enough for a list of metrics; and without
  any, the first error is reported, with the number of specifications.  Specifications that fail
  beside one that does not might as well not be there.
-/

namespace ScaleMetrics.Gather

/-! ### The outcome of one specification -/

/-- What becomes of a specification: `o` is its outcome at a target. -/
inductive OutcomeOf (gather : Gather) (target : ScaleTarget) (spec : MetricSpec) :
    Except GatherError Payload → Prop where
  /-- The specification is not well formed. -/
  | malformed {fault : MetricSpec.Fault} : spec.source = .error fault →
      OutcomeOf gather target spec (.error (.validation fault.message))
  /-- Its source fails. -/
  | failed {source : Source} {inner : GatherError} : spec.source = .ok source →
      (gather.payload target source).outcome = .error inner →
      OutcomeOf gather target spec
        (.error (.within ("failed to get " ++ source.kind.name ++ " metric") inner))
  /-- Its source has a payload. -/
  | gathered {source : Source} {payload : Payload} : spec.source = .ok source →
      (gather.payload target source).outcome = .ok payload →
      OutcomeOf gather target spec (.ok payload)

theorem outcome_spec (gather : Gather) (target : ScaleTarget) (spec : MetricSpec) :
    OutcomeOf gather target spec (gather.outcome target spec) := by
  unfold outcome
  cases hsource : spec.source with
  | error fault =>
      rw [gatherSpec_of_malformed hsource]
      exact .malformed hsource
  | ok source =>
      cases hpayload : (gather.payload target source).outcome with
      | error inner =>
          rw [gatherSpec_of_failed hsource hpayload]
          exact .failed hsource hpayload
      | ok payload =>
          rw [gatherSpec_of_gathered hsource hpayload]
          exact .gathered hsource hpayload

/-! ### The tally of some outcomes -/

/-- The metric of a specification, if its outcome is a payload. -/
def metric? (replicas : Signed32) : MetricSpec × Except GatherError Payload → Option Metric
  | (spec, .ok payload) => some ⟨replicas, spec, payload⟩
  | (_, .error _) => none

/-- The error of an outcome, if it is one. -/
def error? : MetricSpec × Except GatherError Payload → Option GatherError
  | (_, .ok _) => none
  | (_, .error e) => some e

namespace Tally

/-- The tally is that of these outcomes. -/
structure Accounts (replicas : Signed32) (outcomes : List (MetricSpec × Except GatherError Payload))
    (tally : Tally) : Prop where
  metrics : tally.metrics = outcomes.filterMap (metric? replicas)
  first : tally.first = outcomes.findSome? error?
  invalid : tally.invalid = outcomes.countP fun outcome => (error? outcome).isSome

theorem accounts_empty (replicas : Signed32) : Accounts replicas [] .empty :=
  ⟨rfl, rfl, rfl⟩

/-- **One more outcome.** -/
theorem Accounts.add {replicas : Signed32}
    {outcomes : List (MetricSpec × Except GatherError Payload)} {tally : Tally}
    (h : Accounts replicas outcomes tally) (outcome : MetricSpec × Except GatherError Payload) :
    Accounts replicas (outcomes ++ [outcome]) (tally.add replicas outcome) := by
  obtain ⟨spec, result⟩ := outcome
  cases result with
  | ok payload => constructor <;> simp [Tally.add, metric?, error?, h.metrics, h.first, h.invalid]
  | error e => constructor <;> simp [Tally.add, metric?, error?, h.metrics, h.first, h.invalid]

/-- **A list of outcomes**, met from the left. -/
theorem accounts_foldl {replicas : Signed32} :
    ∀ {met : List (MetricSpec × Except GatherError Payload)} {tally : Tally}
      (rest : List (MetricSpec × Except GatherError Payload)), Accounts replicas met tally →
      Accounts replicas (met ++ rest) (rest.foldl (Tally.add replicas) tally)
  | met, _, [], h => by rwa [List.append_nil]
  | met, tally, outcome :: rest, h => by
      rw [List.foldl_cons, List.append_cons]
      exact accounts_foldl rest (h.add outcome)

end Tally

/-! ### The result of the outcomes -/

/-- The metrics of the specifications whose outcome is a payload, in order. -/
def metricsOf (replicas : Signed32) (o : MetricSpec → Except GatherError Payload)
    (specs : List MetricSpec) : List Metric :=
  specs.filterMap fun spec => (o spec).toOption.map fun payload => ⟨replicas, spec, payload⟩

/-- Some outcome is a payload. -/
def SomeGathered (o : MetricSpec → Except GatherError Payload) (specs : List MetricSpec) : Prop :=
  ∃ spec ∈ specs, ∃ payload, o spec = .ok payload

/-- Every outcome is an error. -/
def AllFailed (o : MetricSpec → Except GatherError Payload) (specs : List MetricSpec) : Prop :=
  ∀ spec ∈ specs, ∃ e, o spec = .error e

theorem someGathered_or_allFailed (o : MetricSpec → Except GatherError Payload)
    (specs : List MetricSpec) : SomeGathered o specs ∨ AllFailed o specs := by
  by_cases h : SomeGathered o specs
  · exact .inl h
  · refine .inr fun spec hmem => ?_
    cases hspec : o spec with
    | error e => exact ⟨e, rfl⟩
    | ok payload => exact absurd ⟨spec, hmem, payload, hspec⟩ h

/-- The tally of the outcomes of specifications. -/
theorem accounts_outcomes (replicas : Signed32) (o : MetricSpec → Except GatherError Payload)
    (specs : List MetricSpec) :
    Tally.Accounts replicas (specs.map fun spec => (spec, o spec))
      ((specs.zip (specs.map o)).foldl (Tally.add replicas) .empty) := by
  rw [← List.map_prod_left_eq_zip]
  exact Tally.accounts_foldl _ (Tally.accounts_empty replicas)

theorem filterMap_metric? (replicas : Signed32) (o : MetricSpec → Except GatherError Payload)
    (specs : List MetricSpec) :
    (specs.map fun spec => (spec, o spec)).filterMap (metric? replicas) =
      metricsOf replicas o specs := by
  rw [List.filterMap_map, metricsOf]
  congr 1
  funext spec
  cases hspec : o spec <;> simp [metric?, hspec, Except.toOption]

theorem fold_of_someGathered {replicas : Signed32} {o : MetricSpec → Except GatherError Payload}
    {specs : List MetricSpec} (h : SomeGathered o specs) :
    fold replicas specs (specs.map o) = .ok (metricsOf replicas o specs) := by
  obtain ⟨hmetrics, -, hinvalid⟩ := accounts_outcomes replicas o specs
  rw [filterMap_metric?] at hmetrics
  rw [fold, Tally.result]
  split
  · rw [hmetrics]
  · rw [if_neg, hmetrics]
    -- as many errors as outcomes: then the one that is a payload is an error
    intro hall
    obtain ⟨spec, hmem, payload, hspec⟩ := h
    rw [hinvalid, List.length_map, ← List.length_map (fun spec => (spec, o spec)),
      List.countP_eq_length] at hall
    have hfailed := hall (spec, o spec) (List.mem_map_of_mem hmem)
    rw [hspec] at hfailed
    cases hfailed

theorem fold_of_allFailed {replicas : Signed32} {o : MetricSpec → Except GatherError Payload}
    {first : MetricSpec} {rest : List MetricSpec} {e : GatherError}
    (h : AllFailed o (first :: rest)) (hfirst : o first = .error e) :
    fold replicas (first :: rest) ((first :: rest).map o) =
      .error (.aggregate (first :: rest).length (first :: rest).length e) := by
  obtain ⟨-, herror, hinvalid⟩ := accounts_outcomes replicas o (first :: rest)
  have hcount : (((first :: rest).map fun spec => (spec, o spec)).countP
      fun outcome => (error? outcome).isSome) = (first :: rest).length := by
    rw [← List.length_map (fun spec => (spec, o spec)), List.countP_eq_length]
    intro outcome hmem
    obtain ⟨spec, hspec, rfl⟩ := List.mem_map.1 hmem
    obtain ⟨e', he'⟩ := h spec hspec
    simp [error?, he']
  have hhead : ((first :: rest).map fun spec => (spec, o spec)).findSome? error? = some e := by
    rw [List.map_cons, List.findSome?_cons, hfirst, error?]
  rw [fold, Tally.result, herror, hhead, hinvalid, hcount, List.length_map]
  exact if_pos rfl

/-! ### Specifications that fail -/

/-- `kept` is `specs` without some specifications whose outcome is an error. -/
inductive WithoutFailed (o : MetricSpec → Except GatherError Payload) :
    List MetricSpec → List MetricSpec → Prop where
  | nil : WithoutFailed o [] []
  | keep (spec : MetricSpec) {specs kept : List MetricSpec} : WithoutFailed o specs kept →
      WithoutFailed o (spec :: specs) (spec :: kept)
  | leave {spec : MetricSpec} {e : GatherError} {specs kept : List MetricSpec} :
      o spec = .error e → WithoutFailed o specs kept → WithoutFailed o (spec :: specs) kept

namespace WithoutFailed

variable {o : MetricSpec → Except GatherError Payload} {specs kept : List MetricSpec}

/-- What is left out has no metric. -/
theorem metricsOf_eq (replicas : Signed32) (h : WithoutFailed o specs kept) :
    metricsOf replicas o kept = metricsOf replicas o specs := by
  induction h with
  | nil => rfl
  | keep spec _ ih =>
      rw [metricsOf, metricsOf, List.filterMap_cons, List.filterMap_cons]
      rw [metricsOf, metricsOf] at ih
      rw [ih]
  | leave hspec _ ih =>
      rw [ih, metricsOf, metricsOf, List.filterMap_cons, hspec]
      rfl

theorem someGathered (h : WithoutFailed o specs kept) (hs : SomeGathered o specs) :
    SomeGathered o kept := by
  induction h with
  | nil => exact hs
  | keep spec _ ih =>
      obtain ⟨found, hmem, payload, hfound⟩ := hs
      rcases List.mem_cons.1 hmem with rfl | hmem
      · exact ⟨found, List.mem_cons_self, payload, hfound⟩
      · obtain ⟨found, hmem, rest⟩ := ih ⟨found, hmem, payload, hfound⟩
        exact ⟨found, List.mem_cons_of_mem _ hmem, rest⟩
  | leave hspec _ ih =>
      obtain ⟨found, hmem, payload, hfound⟩ := hs
      rcases List.mem_cons.1 hmem with rfl | hmem
      · rw [hspec] at hfound
        cases hfound
      · exact ih ⟨found, hmem, payload, hfound⟩

end WithoutFailed

/-! ### The result of a run -/

theorem run_of_unresolved {gather : Gather} {workload : Workload} {e : GatherError}
    (h : gather.resolver workload = .error e) (specs : List MetricSpec) (space : String)
    (replicas : Signed32) : (gather.run workload specs space replicas).outcome = .error e := by
  rw [run, h]

theorem run_of_resolved {gather : Gather} {workload : Workload} {selector : Selector}
    (h : gather.resolver workload = .ok selector) (specs : List MetricSpec) (space : String)
    (replicas : Signed32) :
    (gather.run workload specs space replicas).outcome =
      fold replicas specs (specs.map (gather.outcome ⟨space, selector⟩)) := by
  rw [run, h]

/-- How the outcomes of the specifications of a run make its result. -/
structure ResultOf (replicas : Signed32) (o : MetricSpec → Except GatherError Payload)
    (specs : List MetricSpec) (result : Except GatherError (List Metric)) : Prop where
  /-- No specifications, no metrics. -/
  empty : specs = [] → result = .ok []
  /-- One payload is enough: the result is the metrics of the specifications that have one. -/
  gathered : SomeGathered o specs → result = .ok (metricsOf replicas o specs)
  /-- If every specification fails, the result is the first error and how many there are. -/
  failed : ∀ first rest e, specs = first :: rest → AllFailed o specs → o first = .error e →
    result = .error (.aggregate specs.length specs.length e)
  /-- There is no other empty result than that of no specifications. -/
  empty_only : result = .ok [] → specs = []

theorem resultOf_fold (replicas : Signed32) (o : MetricSpec → Except GatherError Payload)
    (specs : List MetricSpec) : ResultOf replicas o specs (fold replicas specs (specs.map o)) where
  empty := by
    rintro rfl
    rfl
  gathered := fold_of_someGathered
  failed := by
    rintro first rest e rfl hall hfirst
    exact fold_of_allFailed hall hfirst
  empty_only := by
    intro hempty
    rcases someGathered_or_allFailed o specs with hsome | hall
    · obtain ⟨spec, hmem, payload, hspec⟩ := hsome
      rw [fold_of_someGathered ⟨spec, hmem, payload, hspec⟩, Except.ok.injEq] at hempty
      have hmetric : (⟨replicas, spec, payload⟩ : Metric) ∈ metricsOf replicas o specs :=
        List.mem_filterMap.2 ⟨spec, hmem, by rw [hspec]; rfl⟩
      rw [hempty] at hmetric
      cases hmetric
    · cases specs with
      | nil => rfl
      | cons first rest =>
          obtain ⟨e, he⟩ := hall first List.mem_cons_self
          rw [fold_of_allFailed hall he] at hempty
          cases hempty

/-- **Partial failure.**  A selector that does not resolve is the error of the run.  Otherwise
each specification has the outcome of its source, the outcomes make the result (`ResultOf`), and
beside a payload the specifications that fail do not matter. -/
theorem run_partial_failure (gather : Gather) (workload : Workload) (specs : List MetricSpec)
    (space : String) (replicas : Signed32) :
    (∀ e, gather.resolver workload = .error e →
      (gather.run workload specs space replicas).outcome = .error e) ∧
    ∀ selector, gather.resolver workload = .ok selector →
      (∀ spec, OutcomeOf gather ⟨space, selector⟩ spec (gather.outcome ⟨space, selector⟩ spec)) ∧
      ResultOf replicas (gather.outcome ⟨space, selector⟩) specs
        (gather.run workload specs space replicas).outcome ∧
      ∀ kept, WithoutFailed (gather.outcome ⟨space, selector⟩) specs kept →
        SomeGathered (gather.outcome ⟨space, selector⟩) specs →
        (gather.run workload kept space replicas).outcome =
          (gather.run workload specs space replicas).outcome := by
  refine ⟨fun e h => run_of_unresolved h specs space replicas, fun selector h => ?_⟩
  rw [run_of_resolved h]
  refine ⟨outcome_spec gather ⟨space, selector⟩, resultOf_fold .., fun kept hkept hsome => ?_⟩
  rw [run_of_resolved h, fold_of_someGathered hsome, fold_of_someGathered (hkept.someGathered hsome),
    hkept.metricsOf_eq]

/-! ### A run of which one specification fails -/

/-- A run in which only outside systems answer. -/
def outsideOnly : Gather where
  cluster :=
    { client :=
        { resource := fun _ _ _ => .error "unavailable"
          raw := fun _ _ _ _ => .error "unavailable"
          object := fun _ _ _ _ => .error "unavailable"
          external := fun _ _ _ => .ok ([Milli.zero], .epoch) }
      pods := fun _ _ => .ok []
      now := .epoch }
  resolver := fun _ => .ok .everything
  windows := .disabled

/-- A specification of the value of a metric of an outside system. -/
def outsideSpec (name : String) : MetricSpec :=
  ⟨none, some ⟨⟨name, none⟩, ⟨none, none, "Value", none⟩⟩, none, none, none, "External"⟩

/-- A specification of what pods use of a resource. -/
def resourceSpec (name : String) : MetricSpec :=
  ⟨none, none, none, none, some ⟨name, ⟨none, none, "AverageValue", none⟩⟩, "Resource"⟩

theorem run_partial_failure_outsideOnly :
    ((outsideOnly.run (.unstructured ⟨none, .empty, []⟩) [resourceSpec "cpu", outsideSpec "queue"]
      "shop" ⟨2, by decide, by decide⟩).outcome =
        .ok [⟨⟨2, by decide, by decide⟩, outsideSpec "queue",
          .external ⟨.ofValue .zero, some 0, .epoch⟩⟩]) ∧
    (outsideOnly.run (.unstructured ⟨none, .empty, []⟩) [outsideSpec "queue"] "shop"
      ⟨2, by decide, by decide⟩).outcome =
      (outsideOnly.run (.unstructured ⟨none, .empty, []⟩) [resourceSpec "cpu", outsideSpec "queue"]
        "shop" ⟨2, by decide, by decide⟩).outcome := by
  have law := (run_partial_failure outsideOnly (.unstructured ⟨none, .empty, []⟩)
    [resourceSpec "cpu", outsideSpec "queue"] "shop" ⟨2, by decide, by decide⟩).2 .everything rfl
  have hsome : SomeGathered (outsideOnly.outcome ⟨"shop", .everything⟩)
      [resourceSpec "cpu", outsideSpec "queue"] :=
    ⟨outsideSpec "queue", by simp, _, rfl⟩
  exact ⟨law.2.1.gathered hsome, law.2.2 _ (.leave rfl (.keep _ .nil)) hsome⟩

end ScaleMetrics.Gather
