import ScaleMetrics.Proofs.Gauges

/-!
# Proofs — Totals

What runs add to the counters of metrics gathered and of specifications that failed.

The total of a counter is the sum over its labels; one more of a label is one more in the total
(`total_increment`).  So an outcome adds one to one of the two counters, under the label of its
specification (`Grown.addOutcome`), and a run adds its outcomes (`adds_of_resolved`): both
counters together grow by its specifications, that of metrics by the length of its result, and if
all fail, that of failures by the number that the error states.

`counters_after_runs` is the account of any runs, one of which may follow any others: a run whose
workload has no selector adds nothing.
-/

namespace ScaleMetrics

open Gather

/-! ### The total of a counter -/

namespace Counters

/-- The sum over the labels. -/
def total (counts : Dict Nat) : Nat :=
  counts.values.sum

/-- A value in place of another changes the sum by their difference. -/
theorem sum_insertEntry (key : String) (value : Nat) {entries : List (String × Nat)}
    (h : entries.Pairwise fun a b => a.1 < b.1) :
    ((Dict.insertEntry key value entries).map (·.2)).sum + (entries.lookup key).getD 0 =
      (entries.map (·.2)).sum + value := by
  induction entries with
  | nil => simp [Dict.insertEntry]
  | cons head rest ih =>
      rw [List.pairwise_cons] at h
      rw [Dict.insertEntry, Dict.lookup_cons_eq]
      split
      · next hlt =>
        -- every key is behind the new one, so it replaces nothing
        have hnone : rest.lookup key = none :=
          Dict.lookup_eq_none_of_lt fun entry hmem => String.lt_trans hlt (h.1 entry hmem)
        have hne : key ≠ head.1 := fun e => String.lt_irrefl _ (e ▸ hlt)
        rw [if_neg hne, hnone]
        simp only [List.map_cons, List.sum_cons, Option.getD_none]
        omega
      · split
        · next heq =>
          simp only [List.map_cons, List.sum_cons, Option.getD_some]
          omega
        · next hne =>
          have hrest := ih h.2
          simp only [List.map_cons, List.sum_cons]
          omega

theorem total_increment (counts : Dict Nat) (label : String) :
    total (increment counts label) = total counts + 1 := by
  have hsum := sum_insertEntry label (countOf counts label + 1) counts.sorted
  change total (increment counts label) + countOf counts label = _ at hsum
  change _ = total counts + _ at hsum
  omega

end Counters

/-! ### Some outcomes -/

/-- The outcomes of the specifications with a label. -/
def under (label : String) (outcomes : List (MetricSpec × Except GatherError Payload)) :
    List (MetricSpec × Except GatherError Payload) :=
  outcomes.filter fun outcome => outcome.1.label = label

/-- How many of the outcomes are payloads. -/
def gatheredIn (outcomes : List (MetricSpec × Except GatherError Payload)) : Nat :=
  outcomes.countP fun outcome => (error? outcome).isNone

/-- How many of the outcomes are errors. -/
def failedIn (outcomes : List (MetricSpec × Except GatherError Payload)) : Nat :=
  outcomes.countP fun outcome => (error? outcome).isSome

theorem under_append (label : String)
    (outcomes others : List (MetricSpec × Except GatherError Payload)) :
    under label (outcomes ++ others) = under label outcomes ++ under label others :=
  List.filter_append ..

theorem gatheredIn_append (outcomes others : List (MetricSpec × Except GatherError Payload)) :
    gatheredIn (outcomes ++ others) = gatheredIn outcomes + gatheredIn others :=
  List.countP_append ..

theorem failedIn_append (outcomes others : List (MetricSpec × Except GatherError Payload)) :
    failedIn (outcomes ++ others) = failedIn outcomes + failedIn others :=
  List.countP_append ..

theorem gatheredIn_add_failedIn (outcomes : List (MetricSpec × Except GatherError Payload)) :
    gatheredIn outcomes + failedIn outcomes = outcomes.length := by
  have hsplit := List.length_eq_countP_add_countP
    (fun outcome : MetricSpec × Except GatherError Payload => (error? outcome).isNone)
    (l := outcomes)
  simp only [Bool.not_eq_true, Option.isNone_eq_false_iff, Bool.decide_eq_true] at hsplit
  exact hsplit.symm

/-- The counters after hold these outcomes besides what the counters before hold. -/
structure Grown (outcomes : List (MetricSpec × Except GatherError Payload))
    (before after : Counters) : Prop where
  gathered : ∀ label,
    after.gatheredOf label = before.gatheredOf label + gatheredIn (under label outcomes)
  failed : ∀ label,
    after.failedOf label = before.failedOf label + failedIn (under label outcomes)
  gatheredTotal :
    Counters.total after.gathered = Counters.total before.gathered + gatheredIn outcomes
  failedTotal : Counters.total after.failed = Counters.total before.failed + failedIn outcomes

namespace Grown

variable {before middle after : Counters}
  {outcomes others : List (MetricSpec × Except GatherError Payload)}

theorem refl (counters : Counters) : Grown [] counters counters :=
  ⟨fun _ => rfl, fun _ => rfl, rfl, rfl⟩

theorem trans (h : Grown outcomes before middle) (h' : Grown others middle after) :
    Grown (outcomes ++ others) before after where
  gathered label := by
    rw [h'.gathered, h.gathered, under_append, gatheredIn_append, Nat.add_assoc]
  failed label := by rw [h'.failed, h.failed, under_append, failedIn_append, Nat.add_assoc]
  gatheredTotal := by rw [h'.gatheredTotal, h.gatheredTotal, gatheredIn_append, Nat.add_assoc]
  failedTotal := by rw [h'.failedTotal, h.failedTotal, failedIn_append, Nat.add_assoc]

/-- A payload, whatever gauges it sets. -/
theorem addGathered (counters : Counters) (spec : MetricSpec) (payload : Payload) :
    Grown [(spec, .ok payload)] counters (counters.addOutcome (spec, .ok payload)) := by
  have hgathered : (counters.addOutcome (spec, .ok payload)).gathered =
      Counters.increment counters.gathered spec.label := by cases payload <;> rfl
  have hfailed : (counters.addOutcome (spec, .ok payload)).failed = counters.failed := by
    cases payload <;> rfl
  constructor
  · intro label
    rw [Counters.gatheredOf, hgathered, Counters.countOf_increment, under, List.filter_singleton]
    by_cases h : spec.label = label
    · simp [h, gatheredIn, error?, Counters.gatheredOf]
    · simp [h, Ne.symm h, gatheredIn, Counters.gatheredOf]
  · intro label
    rw [Counters.failedOf, hfailed, under, List.filter_singleton]
    by_cases h : spec.label = label <;> simp [h, failedIn, error?, Counters.failedOf]
  · rw [hgathered, Counters.total_increment]
    rfl
  · rw [hfailed]
    rfl

theorem addFailed (counters : Counters) (spec : MetricSpec) (e : GatherError) :
    Grown [(spec, .error e)] counters (counters.addOutcome (spec, .error e)) := by
  constructor
  · intro label
    rw [under, List.filter_singleton]
    by_cases h : spec.label = label <;>
      simp [h, gatheredIn, error?, Counters.gatheredOf, Counters.addOutcome, Counters.step]
  · intro label
    rw [Counters.failedOf, Counters.addOutcome, Counters.step, Counters.countOf_increment, under,
      List.filter_singleton]
    by_cases h : spec.label = label
    · simp [h, failedIn, error?, Counters.failedOf]
    · simp [h, Ne.symm h, failedIn, Counters.failedOf]
  · rfl
  · exact Counters.total_increment ..

/-- **One more outcome.** -/
theorem addOutcome (counters : Counters) (outcome : MetricSpec × Except GatherError Payload) :
    Grown [outcome] counters (counters.addOutcome outcome) := by
  obtain ⟨spec, result⟩ := outcome
  cases result with
  | ok payload => exact addGathered ..
  | error e => exact addFailed ..

/-- **Some outcomes**, met from the left. -/
theorem foldl_addOutcome :
    ∀ (outcomes : List (MetricSpec × Except GatherError Payload)) (counters : Counters),
      Grown outcomes counters (outcomes.foldl Counters.addOutcome counters)
  | [], counters => refl counters
  | outcome :: rest, counters =>
      (addOutcome counters outcome).trans (foldl_addOutcome rest (counters.addOutcome outcome))

end Grown

/-- Outcomes are no runs. -/
theorem foldl_addOutcome_runs :
    ∀ (outcomes : List (MetricSpec × Except GatherError Payload)) (counters : Counters),
      (outcomes.foldl Counters.addOutcome counters).runs = counters.runs
  | [], _ => rfl
  | (spec, result) :: rest, counters => by
      have hfirst : (counters.addOutcome (spec, result)).runs = counters.runs := by
        cases result with
        | ok payload => cases payload <;> rfl
        | error e => rfl
      rw [List.foldl_cons, foldl_addOutcome_runs rest, hfirst]

/-! ### One run -/

namespace Gather

/-- The result of a run, by how many of its outcomes are payloads and errors. -/
inductive ResultCounts (outcomes : List (MetricSpec × Except GatherError Payload)) :
    Except GatherError (List Metric) → Prop where
  | gathered {metrics : List Metric} : gatheredIn outcomes = metrics.length →
      ResultCounts outcomes (.ok metrics)
  | aggregate {invalid total : Nat} {first : GatherError} : gatheredIn outcomes = 0 →
      failedIn outcomes = invalid → ResultCounts outcomes (.error (.aggregate invalid total first))

theorem length_metricsOf (replicas : Signed32) (o : MetricSpec → Except GatherError Payload)
    (specs : List MetricSpec) :
    (metricsOf replicas o specs).length = gatheredIn (specs.map fun spec => (spec, o spec)) := by
  rw [← filterMap_metric?, List.length_filterMap_eq_countP, gatheredIn]
  congr 1
  funext outcome
  obtain ⟨spec, result⟩ := outcome
  cases result <;> rfl

theorem resultCounts_fold (replicas : Signed32) (o : MetricSpec → Except GatherError Payload)
    (specs : List MetricSpec) :
    ResultCounts (specs.map fun spec => (spec, o spec)) (fold replicas specs (specs.map o)) := by
  rcases someGathered_or_allFailed o specs with hsome | hall
  · rw [fold_of_someGathered hsome]
    exact .gathered (length_metricsOf replicas o specs).symm
  · cases specs with
    | nil => exact .gathered rfl
    | cons first rest =>
        obtain ⟨e, he⟩ := hall first List.mem_cons_self
        have hnone : gatheredIn ((first :: rest).map fun spec => (spec, o spec)) = 0 := by
          refine List.countP_eq_zero.2 fun outcome hmem => ?_
          obtain ⟨spec, hspec, rfl⟩ := List.mem_map.1 hmem
          obtain ⟨e', he'⟩ := hall spec hspec
          rw [he']
          exact Bool.false_ne_true
        have hsplit := gatheredIn_add_failedIn ((first :: rest).map fun spec => (spec, o spec))
        rw [hnone, Nat.zero_add, List.length_map] at hsplit
        rw [fold_of_allFailed hall he]
        exact .aggregate hnone hsplit

/-- The selector of the run's workload resolves. -/
def Run.resolves (run : Run) : Bool :=
  (run.gather.resolver run.workload).isOk

/-- What a run adds to the counters. -/
structure Run.Adds (run : Run) (before after : Counters) : Prop where
  /-- Each counter grows, label by label, by the specifications that are gathered or fail. -/
  grown : Grown run.outcomes before after
  /-- The time of the run is observed once. -/
  observed : after.runs = before.runs + 1
  /-- Every specification is counted once. -/
  specs : Counters.total after.gathered + Counters.total after.failed =
    Counters.total before.gathered + Counters.total before.failed + run.specs.length
  /-- What is counted is what is returned. -/
  result :
    (∃ metrics, run.trail.outcome = .ok metrics ∧
      Counters.total after.gathered = Counters.total before.gathered + metrics.length) ∨
    ∃ invalid total first, run.trail.outcome = .error (.aggregate invalid total first) ∧
      Counters.total after.gathered = Counters.total before.gathered ∧
      Counters.total after.failed = Counters.total before.failed + invalid

/-- **One run** whose workload has a selector. -/
theorem Run.adds_of_resolved {run : Run} {selector : Selector}
    (h : run.gather.resolver run.workload = .ok selector) (counters : Counters) :
    run.Adds counters (counters.run run.trail.steps) := by
  have hgrown : Grown run.outcomes counters (counters.run run.trail.steps) := by
    rw [Counters.run_trail_of_resolved h]
    obtain ⟨hgathered, hfailed, hgatheredTotal, hfailedTotal⟩ :=
      Grown.foldl_addOutcome run.outcomes counters
    exact ⟨hgathered, hfailed, hgatheredTotal, hfailedTotal⟩
  have hcounts : ResultCounts run.outcomes run.trail.outcome := by
    rw [Run.outcomes_of_resolved h, Run.trail, run_of_resolved h]
    exact resultCounts_fold ..
  refine ⟨hgrown, ?_, ?_, ?_⟩
  · rw [Counters.run_trail_of_resolved h]
    exact congrArg (· + 1) (foldl_addOutcome_runs run.outcomes counters)
  · have hsplit := gatheredIn_add_failedIn run.outcomes
    have hlength : run.outcomes.length = run.specs.length := by
      rw [Run.outcomes_of_resolved h, List.length_map]
    rw [hgrown.gatheredTotal, hgrown.failedTotal]
    omega
  · rw [hgrown.gatheredTotal, hgrown.failedTotal]
    generalize run.trail.outcome = result at hcounts
    cases hcounts with
    | gathered hmetrics => exact .inl ⟨_, rfl, by rw [hmetrics]⟩
    | aggregate hnone hinvalid => exact .inr ⟨_, _, _, rfl, by rw [hnone]; rfl, by rw [hinvalid]⟩

end Gather

/-! ### Any runs -/

theorem Counters.afterRuns_append_singleton (start : Counters) (runs : List Run) (run : Run) :
    start.afterRuns (runs ++ [run]) = (start.afterRuns runs).run run.trail.steps := by
  rw [afterRuns, afterRuns, List.flatMap_append, run_append, List.flatMap_singleton]

theorem grown_afterRuns (start : Counters) (runs : List Run) :
    Grown (runs.flatMap Run.outcomes) start (start.afterRuns runs) := by
  induction runs using List.reverseRecOn with
  | nil => exact .refl start
  | append_singleton runs run ih =>
      rw [List.flatMap_append, List.flatMap_singleton, Counters.afterRuns_append_singleton]
      refine ih.trans ?_
      cases hresolved : run.gather.resolver run.workload with
      | error e =>
          rw [Run.outcomes_of_unresolved hresolved, Counters.run_trail_of_unresolved hresolved]
          exact .refl _
      | ok selector => exact (Run.adds_of_resolved hresolved _).grown

theorem observed_afterRuns (start : Counters) (runs : List Run) :
    (start.afterRuns runs).runs = start.runs + runs.countP Run.resolves := by
  induction runs using List.reverseRecOn with
  | nil => rfl
  | append_singleton runs run ih =>
      rw [Counters.afterRuns_append_singleton, List.countP_append, List.countP_singleton]
      cases hresolved : run.gather.resolver run.workload with
      | error e =>
          have hno : run.resolves = false := by rw [Run.resolves, hresolved]; rfl
          rw [Counters.run_trail_of_unresolved hresolved, ih, hno]
          rfl
      | ok selector =>
          have hyes : run.resolves = true := by rw [Run.resolves, hresolved]; rfl
          rw [(Run.adds_of_resolved hresolved _).observed, ih, hyes]
          rfl

/-- **The counters after any runs.**  They hold the outcomes of all runs, and the time of every run
whose workload has a selector.  One more run changes nothing if its workload has none; otherwise it
adds its outcomes. -/
theorem counters_after_runs (start : Counters) (runs : List Run) :
    Grown (runs.flatMap Run.outcomes) start (start.afterRuns runs) ∧
    (start.afterRuns runs).runs = start.runs + runs.countP Run.resolves ∧
    ∀ run : Run,
      (∀ e, run.gather.resolver run.workload = .error e →
        start.afterRuns (runs ++ [run]) = start.afterRuns runs) ∧
      ∀ selector, run.gather.resolver run.workload = .ok selector →
        run.Adds (start.afterRuns runs) (start.afterRuns (runs ++ [run])) := by
  refine ⟨grown_afterRuns start runs, observed_afterRuns start runs, fun run => ⟨?_, ?_⟩⟩
  · intro e h
    rw [Counters.afterRuns_append_singleton, Counters.run_trail_of_unresolved h]
  · intro selector h
    rw [Counters.afterRuns_append_singleton]
    exact Run.adds_of_resolved h _

/-! ### A run that fails between others -/

/-- A run over the pod that is starting up, of whose two specifications one fails. -/
def halfRun : Run :=
  startingRun [resourceSpec "cpu", outsideSpec "queue"]

/-- The same run, of a workload without a selector. -/
def lostRun : Run :=
  { halfRun with gather := { starting with resolver := fun _ => .error .noPods } }

theorem counters_after_runs_starting :
    Counters.zero.afterRuns ([halfRun] ++ [lostRun]) = Counters.zero.afterRuns [halfRun] ∧
    (startingRun [outsideSpec "queue"]).Adds (Counters.zero.afterRuns [halfRun])
      (Counters.zero.afterRuns ([halfRun] ++ [startingRun [outsideSpec "queue"]])) :=
  have hlaw := (counters_after_runs .zero [halfRun]).2.2
  ⟨(hlaw lostRun).1 .noPods rfl, (hlaw _).2 .everything rfl⟩

/-- Both failures are under one label, and the run that has no selector is not observed. -/
example :
    let counters := Counters.zero.afterRuns [halfRun, lostRun, startingRun [outsideSpec "queue"]]
    counters.gatheredOf "resource" = 1 ∧ counters.failedOf "external" = 2 ∧
      Counters.total counters.failed = 2 ∧ counters.runs = 2 := by
  decide

end ScaleMetrics
