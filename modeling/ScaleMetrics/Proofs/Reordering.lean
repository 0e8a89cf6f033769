import ScaleMetrics.Gather
import ScaleMetrics.Proofs.PartialFailure
import ScaleMetrics.Proofs.Recorded

/-!
# Proofs — Reordering

The order in which a cluster lists the pods of a target.

A group of pods, their requests and the number of those that are ready do not depend on it, if the
pods have distinct names.  So a specification has the same payload in any order, or none
(`payload_reordered`, `outcome_reordered`); only which pod is the first with a fault depends on the
order.  A run is then the same but for the error that it reports (`SameResult`,
`sameResult_fold`).

A snapshot whose pods are put in another order answers all questions about metrics as before
(`client_reordered`).

* `run_reordered`: so runs over both have the same results.
-/

namespace ScaleMetrics

/-- The pods that are listed of the target are the same in another order, and have distinct
names. -/
def Reordered (target : ScaleTarget) (p q : PodLister) : Prop :=
  ∃ pods others, p target.space target.selector = .ok pods ∧
    q target.space target.selector = .ok others ∧ pods.Perm others ∧ (pods.map Pod.name).Nodup

/-! ### Sources -/

namespace Cluster

variable {client : MetricsClient} {p q : PodLister} {now : Instant} {target : ScaleTarget}

theorem requestsFor_reordered {pods others : List Pod} (h : pods.Perm others)
    (hn : (pods.map Pod.name).Nodup) (name : String) (kind : ResourceTarget) :
    (requestsFor pods name kind).toOption = (requestsFor others name kind).toOption := by
  cases kind with
  | averageValue => rfl
  | utilization =>
      refine Option.ext fun sums => ?_
      rw [toOption_eq_some_iff, toOption_eq_some_iff]
      exact ⟨fun hs => Pod.requests_of_perm hs h hn,
        fun hs => Pod.requests_of_perm hs h.symm ((h.map Pod.name).nodup_iff.1 hn)⟩

theorem readyPodCount_reordered (h : Reordered target p q) :
    (readyPodCount ⟨client, p, now⟩ target).outcome =
      (readyPodCount ⟨client, q, now⟩ target).outcome := by
  obtain ⟨pods, others, hp, hq, hperm, -⟩ := h
  simp only [readyPodCount, targetPods, Trail.outcome_bind, Trail.outcome_ask, hp, hq]
  exact congrArg Except.ok (hperm.countP_eq _)

theorem resourceMetric_reordered (h : Reordered target p q) (windows : GraceWindows)
    (name : String) (kind : ResourceTarget) :
    (resourceMetric ⟨client, p, now⟩ windows target name kind).outcome.toOption =
      (resourceMetric ⟨client, q, now⟩ windows target name kind).outcome.toOption := by
  obtain ⟨pods, others, hp, hq, hperm, hn⟩ := h
  rw [resourceMetric_outcome, resourceMetric_outcome, toOption_bind, toOption_bind]
  refine Option.bind_congr fun ⟨series, timestamp⟩ _ => ?_
  simp only [hp, hq]
  change (if pods.isEmpty then _ else _ : Except GatherError ResourceMetric).toOption =
    (if others.isEmpty then _ else _ : Except GatherError ResourceMetric).toOption
  rw [hperm.isEmpty_eq]
  split
  · rfl
  · rw [toOption_bind, toOption_bind, requestsFor_reordered hperm hn, Group.ofPods_perm hperm]

theorem podsMetric_reordered (h : Reordered target p q) (name : String) (series : Selector) :
    (podsMetric ⟨client, p, now⟩ target name series).outcome =
      (podsMetric ⟨client, q, now⟩ target name series).outcome := by
  obtain ⟨pods, others, hp, hq, hperm, -⟩ := h
  simp only [podsMetric, targetPods, Trail.outcome_bind, Trail.outcome_ask, hp, hq]
  change (if pods.isEmpty then _ else _ : Trail PodsMetric).outcome =
    (if others.isEmpty then _ else _ : Trail PodsMetric).outcome
  rw [hperm.isEmpty_eq]
  split
  · rfl
  · rw [Trail.outcome_bind, Trail.outcome_bind]
    simp only [Group.ofPods_perm hperm]
    rfl

theorem objectMetric_reordered (h : Reordered target p q) (object : ObjectReference)
    (name : String) (series : Selector) (kind : ValueTarget) :
    (objectMetric ⟨client, p, now⟩ target object name series kind).outcome =
      (objectMetric ⟨client, q, now⟩ target object name series kind).outcome := by
  simp only [objectMetric, Trail.outcome_bind, readyPodCount_reordered h]
  rfl

theorem externalMetric_reordered (h : Reordered target p q) (name : String) (series : Selector)
    (kind : ValueTarget) :
    (externalMetric ⟨client, p, now⟩ target name series kind).outcome =
      (externalMetric ⟨client, q, now⟩ target name series kind).outcome := by
  simp only [externalMetric, Trail.outcome_bind, readyPodCount_reordered h]
  rfl

end Cluster

/-! ### Specifications -/

namespace Gather

variable {client : MetricsClient} {p q : PodLister} {now : Instant} {resolver : Resolver}
  {windows : GraceWindows} {target : ScaleTarget}

theorem payload_reordered (h : Reordered target p q) (source : Source) :
    (payload ⟨⟨client, p, now⟩, resolver, windows⟩ target source).outcome.toOption =
      (payload ⟨⟨client, q, now⟩, resolver, windows⟩ target source).outcome.toOption := by
  cases source with
  | resource name kind =>
      simp only [payload, Trail.outcome_bind, toOption_bind, Cluster.resourceMetric_reordered h]
  | pods metric => simp only [payload, Trail.outcome_bind, Cluster.podsMetric_reordered h]
  | object reference metric kind =>
      simp only [payload, Trail.outcome_bind, Cluster.objectMetric_reordered h]
  | external metric kind =>
      simp only [payload, Trail.outcome_bind, Cluster.externalMetric_reordered h]

/-- **A specification has the same payload in any order of the pods**, or none. -/
theorem outcome_reordered (h : Reordered target p q) (spec : MetricSpec) :
    (outcome ⟨⟨client, p, now⟩, resolver, windows⟩ target spec).toOption =
      (outcome ⟨⟨client, q, now⟩, resolver, windows⟩ target spec).toOption := by
  cases hsource : spec.source with
  | error fault =>
      rw [outcome, outcome, gatherSpec_of_malformed hsource, gatherSpec_of_malformed hsource]
  | ok source =>
      rw [outcome_of_source hsource, outcome_of_source hsource, toOption_mapError,
        toOption_mapError, payload_reordered h]

/-! ### Runs -/

/-- The results are the same metrics, or the same error but for the one that was first. -/
inductive SameResult :
    Except GatherError (List Metric) → Except GatherError (List Metric) → Prop where
  | metrics (metrics : List Metric) : SameResult (.ok metrics) (.ok metrics)
  | failed (invalid total : Nat) (first other : GatherError) :
      SameResult (.error (.aggregate invalid total first)) (.error (.aggregate invalid total other))

theorem SomeGathered.congr {o o' : MetricSpec → Except GatherError Payload}
    {specs : List MetricSpec} (hsome : SomeGathered o specs)
    (h : ∀ spec, (o spec).toOption = (o' spec).toOption) : SomeGathered o' specs := by
  obtain ⟨spec, hmem, payload, hspec⟩ := hsome
  refine ⟨spec, hmem, payload, toOption_eq_some_iff.1 ?_⟩
  rw [← h, toOption_eq_some_iff.2 hspec]

/-- **Outcomes with the same payloads have the same result**, but for the first error. -/
theorem sameResult_fold {o o' : MetricSpec → Except GatherError Payload}
    (h : ∀ spec, (o spec).toOption = (o' spec).toOption) (replicas : Signed32)
    (specs : List MetricSpec) :
    SameResult (fold replicas specs (specs.map o)) (fold replicas specs (specs.map o')) := by
  rcases someGathered_or_allFailed o specs with hsome | hall
  · have hmetrics : metricsOf replicas o specs = metricsOf replicas o' specs := by
      simp only [metricsOf, h]
    rw [fold_of_someGathered hsome, fold_of_someGathered (hsome.congr h), hmetrics]
    exact .metrics _
  · rcases someGathered_or_allFailed o' specs with hsome' | hall'
    · obtain ⟨spec, hmem, payload, hspec⟩ := hsome'.congr fun spec => (h spec).symm
      obtain ⟨e, he⟩ := hall spec hmem
      cases hspec.symm.trans he
    · cases specs with
      | nil => exact .metrics []
      | cons first rest =>
          obtain ⟨e, he⟩ := hall first List.mem_cons_self
          obtain ⟨e', he'⟩ := hall' first List.mem_cons_self
          rw [fold_of_allFailed hall he, fold_of_allFailed hall' he']
          exact .failed ..

end Gather

/-! ### Snapshots -/

namespace Snapshot

/-- The snapshot with other pods. -/
def withPods (s : Snapshot) (pods : List Pod) : Snapshot :=
  { s with pods := pods }

variable {s : Snapshot} {pods : List Pod} {captured : Instant}

theorem selectedPods_reordered (h : pods.Perm s.pods) (selector : Selector) :
    (s.selectedPods selector).Perm ((s.withPods pods).selectedPods selector) :=
  (h.filter _).symm

/-- Which samples are selected depends on which names the pods have, not on their order. -/
theorem selectSamples_reordered (h : pods.Perm s.pods) :
    (s.withPods pods).selectSamples captured = s.selectSamples captured := by
  funext series selector
  have hnames : (s.selectedNames selector).Perm ((s.withPods pods).selectedNames selector) :=
    (selectedPods_reordered h selector).filterMap _
  have hcontains : ((s.withPods pods).selectedNames selector).contains =
      (s.selectedNames selector).contains :=
    funext fun name => hnames.contains_eq.symm
  rw [selectSamples, selectSamples, hcontains]

theorem client_reordered (h : pods.Perm s.pods) :
    (s.withPods pods).client captured = s.client captured := by
  have hsamples : (s.withPods pods).samples captured = s.samples captured := by
    funext recorded api name selector
    rw [samples, samples, selectSamples_reordered h]
  rw [client, client, hsamples]
  rfl

theorem lister_reordered (h : pods.Perm s.pods) {selector : Selector}
    (hn : ((s.selectedPods selector).map Pod.name).Nodup) (space : String) :
    Reordered ⟨space, selector⟩ s.lister (s.withPods pods).lister :=
  ⟨_, _, rfl, rfl, selectedPods_reordered h selector, hn⟩

/-- **The order of the pods does not matter.**  When no two of the pods of a workload have one
name, each specification has the same payload or none over a snapshot and over the snapshot with its
pods in another order.  So a run over either has the same metrics, or the same error but for the one
that was first, and the same error when the workload has no selector. -/
theorem run_reordered (s : Snapshot) {pods : List Pod} (hperm : pods.Perm s.pods)
    (resolver : Resolver) (windows : GraceWindows) (captured now : Instant) (workload : Workload)
    (space : String)
    (hdistinct : ∀ selector, resolver workload = .ok selector →
      ((s.selectedPods selector).map Pod.name).Nodup) :
    let original : Gather := ⟨s.cluster captured now, resolver, windows⟩
    let reordered : Gather := ⟨(s.withPods pods).cluster captured now, resolver, windows⟩
    (∀ e, resolver workload = .error e → ∀ specs replicas,
      (original.run workload specs space replicas).outcome = .error e ∧
      (reordered.run workload specs space replicas).outcome = .error e) ∧
    ∀ selector, resolver workload = .ok selector →
      (∀ spec, (original.outcome ⟨space, selector⟩ spec).toOption =
        (reordered.outcome ⟨space, selector⟩ spec).toOption) ∧
      ∀ specs replicas, Gather.SameResult
        (original.run workload specs space replicas).outcome
        (reordered.run workload specs space replicas).outcome := by
  intro original reordered
  refine ⟨fun e h specs replicas => ⟨Gather.run_of_unresolved h .., Gather.run_of_unresolved h ..⟩,
    fun selector h => ?_⟩
  have houtcome : ∀ spec, (original.outcome ⟨space, selector⟩ spec).toOption =
      (reordered.outcome ⟨space, selector⟩ spec).toOption := by
    have hreordered : reordered =
        ⟨⟨s.client captured, (s.withPods pods).lister, now⟩, resolver, windows⟩ := by
      simp only [reordered, cluster, client_reordered hperm]
    rw [hreordered]
    exact Gather.outcome_reordered (lister_reordered hperm (hdistinct selector h) space)
  refine ⟨houtcome, fun specs replicas => ?_⟩
  rw [Gather.run_of_resolved h, Gather.run_of_resolved h]
  exact Gather.sameResult_fold houtcome replicas specs

theorem run_reordered_shop :
    ((shop.selectedPods (appSelector "web")).map Pod.name).Nodup ∧
    Gather.SameResult
      (Gather.run ⟨shop.cluster .epoch .epoch, Workload.selector, .disabled⟩ shop.workload
        shop.specs "shop" shop.replicas).outcome
      (Gather.run ⟨(shop.withPods shop.pods.reverse).cluster .epoch .epoch, Workload.selector,
        .disabled⟩ shop.workload shop.specs "shop" shop.replicas).outcome := by
  have hselector : shop.workload.selector = .ok (appSelector "web") := rfl
  have hnodup : ((shop.selectedPods (appSelector "web")).map Pod.name).Nodup := by decide
  have hdistinct : ∀ selector, shop.workload.selector = .ok selector →
      ((shop.selectedPods selector).map Pod.name).Nodup := by
    intro selector h
    rw [hselector] at h
    obtain rfl : appSelector "web" = selector := Except.ok.inj h
    exact hnodup
  have law := run_reordered shop (List.reverse_perm shop.pods) Workload.selector .disabled .epoch
    .epoch shop.workload "shop" hdistinct
  exact ⟨hnodup, (law.2 _ hselector).2 shop.specs shop.replicas⟩

end Snapshot

end ScaleMetrics
