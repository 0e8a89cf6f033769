import ScaleMetrics.Proofs.PartialFailure

/-!
# Proofs — Questions

When a cluster is asked at all.

A specification is rejected (`Rejected`) when it is not well formed, or when the selector of its
series is malformed.  Its error is then in the specification alone, and nothing is asked
(`gatherSpec_of_rejected`).  Every other specification asks at least one question
(`calls_eq_nil_iff`).  A metric that pods report, of which there are none, asks for the pods and for
nothing else (`podsMetric_of_noPods`).

* `asked_only_when_valid`: these facts together, and that a run asks nothing of the cluster when
  its workload has no selector.
-/

namespace ScaleMetrics

/-! ### Calls -/

namespace Trail

variable {α β : Type}

/-- The questions put to the cluster. -/
def calls (x : Trail α) : List Call :=
  x.steps.filterMap Step.call?

theorem calls_ask (call : Call) (context : String) (answer : Except String α) :
    (ask call context answer).calls = [call] := rfl

theorem calls_within (context : String) (x : Trail α) : (x.within context).calls = x.calls := rfl

/-- The questions of a sequence are those of its parts, as far as it gets. -/
theorem calls_bind (x : Trail α) (f : α → Trail β) :
    (x >>= f).calls = x.calls ++
      match x.outcome with
      | .ok a => (f a).calls
      | .error _ => [] := by
  cases h : x.outcome with
  | ok a =>
      rw [bind_of_ok h]
      exact List.filterMap_append
  | error e =>
      rw [bind_of_error h]
      exact (List.append_nil _).symm

/-- What asks first asks at all. -/
theorem calls_bind_ne_nil {x : Trail α} (h : x.calls ≠ []) (f : α → Trail β) :
    (x >>= f).calls ≠ [] := by
  rw [calls_bind]
  exact List.append_ne_nil_of_left_ne_nil h _

theorem calls_ask_bind_ne_nil (call : Call) (context : String) (answer : Except String α)
    (f : α → Trail β) : (ask call context answer >>= f).calls ≠ [] :=
  calls_bind_ne_nil (by rw [calls_ask]; exact List.cons_ne_nil _ _) f

/-- An outcome alone asks nothing, so what follows a value asks the questions of both. -/
theorem calls_ofExcept_bind {outcome : Except GatherError α} {a : α} (h : outcome = .ok a)
    (f : α → Trail β) : (ofExcept outcome >>= f).calls = (f a).calls := by
  rw [h, calls_bind]
  rfl

end Trail

/-! ### Sources -/

namespace Cluster

variable (cluster : Cluster) (target : ScaleTarget)

theorem resourceMetric_asks (windows : GraceWindows) (name : String) (kind : ResourceTarget) :
    (cluster.resourceMetric windows target name kind).calls ≠ [] :=
  Trail.calls_ask_bind_ne_nil _ _ _ _

theorem podsMetric_asks (name : String) (series : Selector) :
    (cluster.podsMetric target name series).calls ≠ [] :=
  Trail.calls_ask_bind_ne_nil _ _ _ _

theorem objectMetric_asks (object : ObjectReference) (name : String) (series : Selector)
    (kind : ValueTarget) : (cluster.objectMetric target object name series kind).calls ≠ [] :=
  Trail.calls_ask_bind_ne_nil _ _ _ _

theorem externalMetric_asks (name : String) (series : Selector) (kind : ValueTarget) :
    (cluster.externalMetric target name series kind).calls ≠ [] :=
  Trail.calls_ask_bind_ne_nil _ _ _ _

variable {cluster target}

/-- Without pods there is nothing to fetch. -/
theorem podsMetric_of_noPods (h : cluster.pods target.space target.selector = .ok [])
    (name : String) (series : Selector) :
    cluster.podsMetric target name series =
      ⟨[.called (.listPods target.space target.selector), .logged (.noPods name target.space)],
        .ok (metricOfNoPods cluster.now)⟩ := by
  have hpods : (cluster.targetPods target).outcome = .ok [] := Trail.outcome_ask_of_ok h _ _
  rw [podsMetric, Trail.bind_of_ok hpods]
  rfl

end Cluster

/-- The metric whose series a selector may narrow; a resource has none. -/
def Source.metric? : Source → Option MetricIdentifier
  | .resource .. => none
  | .pods metric => some metric
  | .object _ metric _ => some metric
  | .external metric _ => some metric

namespace Gather

/-- The metric has a selector of its series that is malformed. -/
def BadSeries (metric : MetricIdentifier) (e : GatherError) : Prop :=
  ∃ written fault, metric.selector = some written ∧ written.selector = .error fault ∧
    e = .selector fault.message

theorem seriesSelector_eq_error_iff {metric : MetricIdentifier} {e : GatherError} :
    seriesSelector metric = .error e ↔ BadSeries metric e := by
  rw [seriesSelector, BadSeries]
  cases metric.selector with
  | none => simp
  | some written => cases hwritten : written.selector <;> simp [hwritten, eq_comm]

theorem seriesSelector_eq_ok {metric : MetricIdentifier} (h : ∀ e, ¬ BadSeries metric e) :
    ∃ series, seriesSelector metric = .ok series := by
  cases hseries : seriesSelector metric with
  | ok series => exact ⟨series, rfl⟩
  | error e => exact absurd (seriesSelector_eq_error_iff.1 hseries) (h e)

/-- A malformed selector is found before anything is asked. -/
theorem payload_of_badSeries (gather : Gather) (target : ScaleTarget) {source : Source}
    {metric : MetricIdentifier} {e : GatherError} (hmetric : source.metric? = some metric)
    (h : BadSeries metric e) : gather.payload target source = ⟨[], .error e⟩ := by
  have hseries : (Trail.ofExcept (seriesSelector metric)).outcome = .error e :=
    seriesSelector_eq_error_iff.2 h
  cases source with
  | resource name kind => cases hmetric
  | pods metric | object reference metric kind | external metric kind =>
      cases hmetric
      exact Trail.bind_of_error hseries _

/-- Unless its selector is malformed, a source asks. -/
theorem payload_asks {gather : Gather} {target : ScaleTarget} {source : Source}
    (h : ∀ metric e, source.metric? = some metric → ¬ BadSeries metric e) :
    (gather.payload target source).calls ≠ [] := by
  cases source with
  | resource name kind => exact Trail.calls_bind_ne_nil (Cluster.resourceMetric_asks _ _ _ _ _) _
  | pods metric =>
      obtain ⟨series, hseries⟩ := seriesSelector_eq_ok (h metric · rfl)
      rw [Gather.payload, Trail.calls_ofExcept_bind hseries]
      exact Trail.calls_bind_ne_nil (Cluster.podsMetric_asks _ _ _ _) _
  | object reference metric kind =>
      obtain ⟨series, hseries⟩ := seriesSelector_eq_ok (h metric · rfl)
      rw [Gather.payload, Trail.calls_ofExcept_bind hseries]
      exact Trail.calls_bind_ne_nil (Cluster.objectMetric_asks _ _ _ _ _ _) _
  | external metric kind =>
      obtain ⟨series, hseries⟩ := seriesSelector_eq_ok (h metric · rfl)
      rw [Gather.payload, Trail.calls_ofExcept_bind hseries]
      exact Trail.calls_bind_ne_nil (Cluster.externalMetric_asks _ _ _ _ _) _

/-- Without pods, a metric that they report is empty, whatever the metrics client would answer. -/
theorem payload_of_noPods (gather : Gather) {target : ScaleTarget} {metric : MetricIdentifier}
    {series : Selector} (hpods : gather.cluster.pods target.space target.selector = .ok [])
    (hseries : seriesSelector metric = .ok series) :
    gather.payload target (.pods metric) =
      ⟨[.called (.listPods target.space target.selector),
          .logged (.noPods metric.name target.space)],
        .ok (.pods (Cluster.metricOfNoPods gather.cluster.now))⟩ := by
  have hparsed : (Trail.ofExcept (seriesSelector metric)).outcome = .ok series := hseries
  rw [payload, Trail.bind_of_ok hparsed, Cluster.podsMetric_of_noPods hpods]
  rfl

/-! ### Rejected specifications -/

/-- The specification is not fully valid, for this error: it is not well formed, or the selector
of its series is malformed. -/
inductive Rejected (spec : MetricSpec) : GatherError → Prop where
  | malformed {fault : MetricSpec.Fault} : spec.source = .error fault →
      Rejected spec (.validation fault.message)
  | badSeries {source : Source} {metric : MetricIdentifier} {e : GatherError} :
      spec.source = .ok source → source.metric? = some metric → BadSeries metric e →
      Rejected spec (.within ("failed to get " ++ source.kind.name ++ " metric") e)

variable {gather : Gather} {target : ScaleTarget} {spec : MetricSpec} {e : GatherError}

/-- **A rejected specification asks nothing**, and its error does not depend on the cluster. -/
theorem gatherSpec_of_rejected (h : Rejected spec e) :
    gather.gatherSpec target spec = ⟨[], .error e⟩ := by
  cases h with
  | malformed hfault => exact gatherSpec_of_malformed hfault
  | badSeries hsource hmetric hbad =>
      have hpayload := payload_of_badSeries gather target hmetric hbad
      rw [gatherSpec_of_failed hsource (congrArg Trail.outcome hpayload), hpayload]
      rfl

/-- **Every other specification asks.** -/
theorem calls_eq_nil_iff :
    (gather.gatherSpec target spec).calls = [] ↔ ∃ e, Rejected spec e := by
  constructor
  · intro h
    by_contra hvalid
    cases hsource : spec.source with
    | error fault => exact hvalid ⟨_, .malformed hsource⟩
    | ok source =>
        rw [gatherSpec, hsource] at h
        refine Trail.calls_bind_ne_nil ?_ _ h
        rw [Trail.calls_within]
        exact payload_asks fun metric e hmetric hbad =>
          hvalid ⟨_, .badSeries hsource hmetric hbad⟩
  · rintro ⟨e, h⟩
    rw [gatherSpec_of_rejected h]
    rfl

/-- **The cluster is asked only for what is valid.**  A rejected specification asks nothing, and
has the same error over every cluster; all others ask.  When the workload has no selector, the run
ends with that error whatever the cluster and the specifications are.  A pods metric of which there
are no pods asks for the pods alone, and is empty whatever the metrics client would answer. -/
theorem asked_only_when_valid :
    (∀ spec, (∀ e, Rejected spec e → ∀ (gather : Gather) (target : ScaleTarget),
        gather.gatherSpec target spec = ⟨[], .error e⟩) ∧
      ∀ (gather : Gather) (target : ScaleTarget),
        (gather.gatherSpec target spec).calls = [] ↔ ∃ e, Rejected spec e) ∧
    (∀ (resolver : Resolver) (workload : Workload) (e : GatherError),
      resolver workload = .error e →
      ∀ (cluster : Cluster) (windows : GraceWindows) (specs : List MetricSpec) (space : String)
        (replicas : Signed32),
        run ⟨cluster, resolver, windows⟩ workload specs space replicas =
          ⟨[.called (.selectorFor workload.describe)], .error e⟩) ∧
    ∀ (spec : MetricSpec) (metric : MetricIdentifier) (pods : PodLister) (target : ScaleTarget),
      spec.source = .ok (.pods metric) → (∀ e, ¬ BadSeries metric e) →
      pods target.space target.selector = .ok [] →
      ∀ (client : MetricsClient) (now : Instant) (resolver : Resolver) (windows : GraceWindows),
        let trail := gatherSpec ⟨⟨client, pods, now⟩, resolver, windows⟩ target spec
        trail.calls = [.listPods target.space target.selector] ∧
        trail.outcome = .ok (.pods
          { samples := .empty
            readyPodCount := 0
            ignored := none
            missing := .empty
            totalPods := 0
            timestamp := now }) := by
  refine ⟨fun spec => ⟨fun e h gather target => gatherSpec_of_rejected h,
    fun gather target => calls_eq_nil_iff⟩, ?_, ?_⟩
  · intro resolver workload e h cluster windows specs space replicas
    simp only [run, h]
  · intro spec metric pods target hsource hmetric hpods client now resolver windows
    obtain ⟨series, hseries⟩ := seriesSelector_eq_ok hmetric
    intro trail
    have hpayload := payload_of_noPods ⟨⟨client, pods, now⟩, resolver, windows⟩ hpods hseries
    have hspec := gatherSpec_of_gathered hsource (congrArg Trail.outcome hpayload)
    rw [hpayload] at hspec
    rw [show trail = _ from hspec]
    exact ⟨rfl, rfl⟩

/-! ### A client that never answers -/

/-- A specification of a metric that pods report, with a selector of its series. -/
def reportedSpec (series : LabelSelector) : MetricSpec :=
  ⟨none, none, none, some ⟨⟨"requests", some series⟩, ⟨none, none, "AverageValue", none⟩⟩,
    none, "Pods"⟩

/-- A selector of which the requirement has no key. -/
def emptyKey : LabelSelector :=
  ⟨none, some [⟨"", "Exists", none⟩]⟩

theorem asked_only_when_valid_unanswered :
    (outsideOnly.gatherSpec ⟨"shop", .everything⟩ (reportedSpec emptyKey)).calls = [] ∧
    run ⟨outsideOnly.cluster, fun _ => .error .noPods, .disabled⟩ (.unstructured ⟨none, .empty, []⟩)
        [reportedSpec .empty] "shop" ⟨1, by decide, by decide⟩ =
      ⟨[.called (.selectorFor (Workload.unstructured ⟨none, .empty, []⟩).describe)],
        .error .noPods⟩ ∧
    (outsideOnly.gatherSpec ⟨"shop", .everything⟩ (reportedSpec .empty)).calls =
      [.listPods "shop" .everything] := by
  obtain ⟨hspec, hrun, hpods⟩ := asked_only_when_valid
  have hsource : (reportedSpec emptyKey).source = .ok (.pods ⟨"requests", some emptyKey⟩) := rfl
  have hbad : BadSeries ⟨"requests", some emptyKey⟩
      (.selector LabelSelector.Fault.emptyKey.message) :=
    ⟨emptyKey, .emptyKey, rfl, rfl, rfl⟩
  have hrejected := (hspec _).1 _ (.badSeries hsource rfl hbad) outsideOnly ⟨"shop", .everything⟩
  have hseries : ∀ e, ¬ BadSeries ⟨"requests", some .empty⟩ e := by
    rintro e ⟨written, fault, hwritten, hfault, -⟩
    cases hwritten
    cases hfault
  refine ⟨?_, hrun _ _ _ rfl _ _ _ _ _,
    (hpods (reportedSpec .empty) _ _ ⟨"shop", .everything⟩ rfl hseries rfl _ _ _ _).1⟩
  rw [hrejected]
  rfl

end Gather

end ScaleMetrics
