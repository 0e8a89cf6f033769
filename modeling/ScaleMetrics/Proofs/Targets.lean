import ScaleMetrics.Proofs.PartialFailure
import ScaleMetrics.Proofs.Requests
import ScaleMetrics.Proofs.WellFormed

/-!
# Proofs — Targets

Specifications that differ only in what they aim at, over one cluster.

They ask for the same source but for its target (`SameSource`, `sameSource_of_sameButTarget`).
What is read of a cluster for an object or an outside system does not depend on the target
(`payload_object`, `payload_external`), and no more does what is read of a resource, but for the
requests (`payload_resource`).  So the outcomes are one reading, shown in two ways.

* `target_kinds_agree`: a value and the value spread over the ready pods fail alike, or are the
  value and its share for the same ready pods at the same time (`Spread`).  A resource has the same
  outcome with and without requests, but that the requests can be at fault (`Requesting`).
-/

namespace ScaleMetrics

/-! ### Specifications of one source -/

/-- The target with another kind. -/
def MetricTarget.withKind (target : MetricTarget) (word : String) : MetricTarget :=
  { target with kind := word }

namespace MetricSpec

/-- The specification with another kind of target, in every block that there is. -/
def withTargetKind (spec : MetricSpec) (word : String) : MetricSpec where
  containerResource := spec.containerResource.map fun block =>
    { block with target := block.target.withKind word }
  external := spec.external.map fun block => { block with target := block.target.withKind word }
  object := spec.object.map fun block => { block with target := block.target.withKind word }
  pods := spec.pods.map fun block => { block with target := block.target.withKind word }
  resource := spec.resource.map fun block => { block with target := block.target.withKind word }
  kind := spec.kind

/-- The specifications differ only in the kind of target. -/
def SameButTarget (a b : MetricSpec) : Prop :=
  a.withTargetKind "" = b.withTargetKind ""

end MetricSpec

/-- The sources differ only in their target. -/
inductive SameSource : Source → Source → Prop where
  | resource (name : String) (t u : ResourceTarget) :
      SameSource (.resource name t) (.resource name u)
  | pods (metric : MetricIdentifier) : SameSource (.pods metric) (.pods metric)
  | object (reference : ObjectReference) (metric : MetricIdentifier) (t u : ValueTarget) :
      SameSource (.object reference metric t) (.object reference metric u)
  | external (metric : MetricIdentifier) (t u : ValueTarget) :
      SameSource (.external metric t) (.external metric u)

theorem sameSource_of_sameButTarget {a b : MetricSpec} {s t : Source} (ha : a.AsksFor s)
    (hb : b.AsksFor t) (h : a.SameButTarget b) : SameSource s t := by
  unfold MetricSpec.SameButTarget at h
  cases ha with
  | @resource block =>
      cases hb with
      | @resource other =>
          have hname : block.name = other.name :=
            Option.some.inj (congrArg (fun spec => spec.resource.map (·.name)) h)
          rw [hname]
          exact .resource ..
      | pods | object | external => cases h
  | @pods block =>
      cases hb with
      | @pods other =>
          have hmetric : block.metric = other.metric :=
            Option.some.inj (congrArg (fun spec => spec.pods.map (·.metric)) h)
          rw [hmetric]
          exact .pods ..
      | resource | object | external => cases h
  | @object block =>
      cases hb with
      | @object other =>
          have hreference : block.describedObject = other.describedObject :=
            Option.some.inj (congrArg (fun spec => spec.object.map (·.describedObject)) h)
          have hmetric : block.metric = other.metric :=
            Option.some.inj (congrArg (fun spec => spec.object.map (·.metric)) h)
          rw [hreference, hmetric]
          exact .object ..
      | resource | pods | external => cases h
  | @external block =>
      cases hb with
      | @external other =>
          have hmetric : block.metric = other.metric :=
            Option.some.inj (congrArg (fun spec => spec.external.map (·.metric)) h)
          rw [hmetric]
          exact .external ..
      | resource | pods | object => cases h

/-! ### A value, and its share -/

/-- How the outcome of a value compares with that of the value spread over the ready pods: they
fail alike, or are the value and its share at the same time. -/
inductive Spread (wrap : ValueMetric → Payload) :
    Except GatherError Payload → Except GatherError Payload → Prop where
  | failed (e : GatherError) : Spread wrap (.error e) (.error e)
  | gathered {value average : Milli} {ready : Nat} {timestamp : Instant} :
      (0 < ready → average.val = value.val.tdiv ready) → (ready = 0 → average = value) →
      Spread wrap (.ok (wrap ⟨.ofValue value, some ready, timestamp⟩))
        (.ok (wrap ⟨.ofAverage average, some ready, timestamp⟩))

/-- A value that was read, the ready pods, and the time of the reading. -/
abbrev Reading := Except GatherError (Milli × Nat × Instant)

/-- The metric of a reading. -/
def Reading.metric (reading : Reading) (kind : ValueTarget) : Except GatherError ValueMetric := do
  let (value, ready, timestamp) ← reading
  return Cluster.valueMetric value ready timestamp kind

/-- One reading in two ways, in one context. -/
theorem spread_of_reading (wrap : ValueMetric → Payload) (context : String) (reading : Reading) :
    Spread wrap ((wrap <$> reading.metric .value).mapError (.within context))
      ((wrap <$> reading.metric .averageValue).mapError (.within context)) := by
  match reading with
  | .error e => exact .failed _
  | .ok (value, ready, timestamp) =>
      refine .gathered (fun hready => ?_) fun hready => ?_
      · rw [Milli.share, if_neg hready.ne']
      · rw [Milli.share, if_pos hready]

namespace Gather

variable (gather : Gather) (target : ScaleTarget)

/-- What is read for a metric that describes an object. -/
def objectReading (reference : ObjectReference) (metric : MetricIdentifier) : Reading := do
  let series ← seriesSelector metric
  let (value, timestamp) ←
    (gather.cluster.objectValue target reference metric.name series).outcome
  let ready ← (gather.cluster.readyPodCount target).outcome
  return (value, ready, timestamp)

/-- What is read for a metric of an outside system. -/
def externalReading (metric : MetricIdentifier) : Reading := do
  let series ← seriesSelector metric
  let (values, timestamp) ← (gather.cluster.externalValues target metric.name series).outcome
  let total ← Cluster.externalTotal metric.name values
  let ready ← (gather.cluster.readyPodCount target).outcome
  return (total, ready, timestamp)

theorem payload_object (reference : ObjectReference) (metric : MetricIdentifier)
    (kind : ValueTarget) :
    (gather.payload target (.object reference metric kind)).outcome =
      .object <$> (gather.objectReading target reference metric).metric kind := by
  simp only [payload, Cluster.objectMetric, objectReading, Reading.metric, Trail.outcome_bind,
    Trail.outcome_ofExcept, Trail.outcome_pure, map_bind, bind_assoc]
  rfl

theorem payload_external (metric : MetricIdentifier) (kind : ValueTarget) :
    (gather.payload target (.external metric kind)).outcome =
      .external <$> (gather.externalReading target metric).metric kind := by
  simp only [payload, Cluster.externalMetric, externalReading, Reading.metric, Trail.outcome_bind,
    Trail.outcome_ofExcept, Trail.outcome_pure, map_bind, bind_assoc]
  rfl

end Gather

/-! ### A resource, and its requests -/

/-- How the outcome of a resource compares with that of the resource as a share of the requests:
they fail alike, or the requests of a pod are at fault, or only the requests are more. -/
inductive Requesting (cluster : Cluster) (target : ScaleTarget) (name : String) :
    Except GatherError Payload → Except GatherError Payload → Prop where
  | failed (e : GatherError) : Requesting cluster target name (.error e) (.error e)
  | unrequested (metric : ResourceMetric) {pods : List Pod} {pod : Pod} {e : GatherError} :
      cluster.pods target.space target.selector = .ok pods → pod ∈ pods →
      pod.RequestFault name e → metric.requests = Dict.empty →
      Requesting cluster target name (.ok (.resource metric))
        (.error (.within (Gather.context .resource) e))
  | requested (metric : ResourceMetric) {pods : List Pod} :
      cluster.pods target.space target.selector = .ok pods →
      Pod.requests pods name = .ok metric.requests →
      Requesting cluster target name (.ok (.resource { metric with requests := Dict.empty }))
        (.ok (.resource metric))

namespace Cluster

/-- The pods of a target, and what they use of a resource, without their requests. -/
def usage (cluster : Cluster) (windows : GraceWindows) (target : ScaleTarget) (name : String) :
    Except GatherError (List Pod × ResourceMetric) := do
  let (series, timestamp) ← (cluster.resourceSamples target name).outcome
  let pods ← (cluster.targetPods target).outcome
  if pods.isEmpty then .error .noPods
  else
    let group := Group.ofPods pods series windows cluster.now
    return (pods, {
      samples := group.ready
      requests := Dict.empty
      readyPodCount := group.readyCount
      ignored := group.ignored
      missing := group.missing
      totalPods := group.total
      timestamp := timestamp })

variable {cluster : Cluster} {windows : GraceWindows} {target : ScaleTarget} {name : String}

theorem resourceMetric_usage (kind : ResourceTarget) :
    (cluster.resourceMetric windows target name kind).outcome = do
      let (pods, metric) ← cluster.usage windows target name
      let requests ← requestsFor pods name kind
      return { metric with requests := requests } := by
  rw [resourceMetric_outcome, usage]
  simp only [bind_assoc]
  refine bind_congr fun ⟨series, timestamp⟩ => bind_congr fun pods => ?_
  split <;> rfl

theorem usage_eq_ok {pods : List Pod} {metric : ResourceMetric}
    (h : cluster.usage windows target name = .ok (pods, metric)) :
    cluster.pods target.space target.selector = .ok pods := by
  obtain ⟨⟨series, timestamp⟩, -, h⟩ := bind_eq_ok.1 h
  obtain ⟨listed, hlisted, h⟩ := bind_eq_ok.1 h
  split at h
  · cases h
  · obtain ⟨rfl, rfl⟩ := Prod.mk.inj (pure_eq_ok.1 h)
    exact mapError_eq_ok.1 hlisted

end Cluster

namespace Gather

variable {gather : Gather} {target : ScaleTarget} {name : String}

theorem payload_resource (kind : ResourceTarget) :
    (gather.payload target (.resource name kind)).outcome = do
      let (pods, metric) ← gather.cluster.usage gather.windows target name
      let requests ← Cluster.requestsFor pods name kind
      return .resource { metric with requests := requests } := by
  rw [payload, Trail.outcome_bind, Cluster.resourceMetric_usage, bind_assoc]
  refine bind_congr fun ⟨pods, metric⟩ => ?_
  rw [bind_assoc]
  rfl

/-- A resource without and with requests, in the context of its kind. -/
theorem requesting_payload :
    Requesting gather.cluster target name
      ((gather.payload target (.resource name .averageValue)).outcome.mapError
        (.within (context .resource)))
      ((gather.payload target (.resource name .utilization)).outcome.mapError
        (.within (context .resource))) := by
  rw [payload_resource, payload_resource]
  cases husage : gather.cluster.usage gather.windows target name with
  | error e => exact .failed _
  | ok read =>
      obtain ⟨pods, metric⟩ := read
      have hpods := Cluster.usage_eq_ok husage
      change Requesting _ _ _ (.ok (.resource { metric with requests := Dict.empty }))
        ((do
          let requests ← Pod.requests pods name
          return Payload.resource { metric with requests := requests }).mapError _)
      cases hsums : Pod.requests pods name with
      | error e =>
          obtain ⟨front, pod, rest, rfl, -, hfault⟩ := Pod.requests_eq_error_iff.1 hsums
          have hmem : pod ∈ front ++ pod :: rest := List.mem_append_right _ List.mem_cons_self
          exact .unrequested { metric with requests := Dict.empty } hpods hmem hfault rfl
      | ok requests => exact .requested { metric with requests := requests } hpods hsums

end Gather

/-! ### Two specifications over one cluster -/

/-- **Targets of one source agree.**  Two well-formed specifications that differ only in their
target read the same of a cluster: so do the value of an object and its share, those of an outside
system, and a resource without and with requests. -/
theorem target_kinds_agree (gather : Gather) (target : ScaleTarget) {a b : MetricSpec}
    (h : a.SameButTarget b) :
    (∀ reference other metric named, a.source = .ok (.object reference metric .value) →
      b.source = .ok (.object other named .averageValue) →
      Spread .object (gather.outcome target a) (gather.outcome target b)) ∧
    (∀ metric named, a.source = .ok (.external metric .value) →
      b.source = .ok (.external named .averageValue) →
      Spread .external (gather.outcome target a) (gather.outcome target b)) ∧
    ∀ name other, a.source = .ok (.resource name .averageValue) →
      b.source = .ok (.resource other .utilization) →
      Requesting gather.cluster target name (gather.outcome target a)
        (gather.outcome target b) := by
  have hsame : ∀ s t, a.source = .ok s → b.source = .ok t → SameSource s t := fun s t ha hb =>
    sameSource_of_sameButTarget (MetricSpec.source_eq_ok_iff.1 ha)
      (MetricSpec.source_eq_ok_iff.1 hb) h
  refine ⟨fun reference other metric named ha hb => ?_, fun metric named ha hb => ?_,
    fun name other ha hb => ?_⟩
  · cases hsame _ _ ha hb
    rw [Gather.outcome_of_source ha, Gather.outcome_of_source hb, Gather.payload_object,
      Gather.payload_object]
    exact spread_of_reading ..
  · cases hsame _ _ ha hb
    rw [Gather.outcome_of_source ha, Gather.outcome_of_source hb, Gather.payload_external,
      Gather.payload_external]
    exact spread_of_reading ..
  · cases hsame _ _ ha hb
    rw [Gather.outcome_of_source ha, Gather.outcome_of_source hb]
    exact Gather.requesting_payload

/-! ### Two ready pods -/

/-- A pod that is running and ready, of one container that requests so much of the processor. -/
def readyPod (name : String) (cpu : Dict String) : Pod where
  metadata := ⟨none, none, none, some name, none, []⟩
  spec := some ⟨[⟨"main", some ⟨none, some cpu, []⟩, []⟩], []⟩
  status := some ⟨some [⟨"Ready", "True", none, []⟩], some "Running", none, []⟩

/-- Two ready pods, of which one requests nothing, beside a negative value. -/
def twoReady : Gather where
  cluster :=
    { client :=
        { resource := fun _ _ _ => .ok (.empty, .epoch)
          raw := fun _ _ _ _ => .error "unavailable"
          object := fun _ _ _ _ => .ok (⟨-7, by decide, by decide⟩, .epoch)
          external := fun _ _ _ => .ok ([⟨-7, by decide, by decide⟩], .epoch) }
      pods := fun _ _ =>
        .ok [readyPod "web-0" (.ofList [("cpu", "500m")]), readyPod "web-1" .empty]
      now := .epoch }
  resolver := fun _ => .ok .everything
  windows := .disabled

/-- A specification of a metric that describes an object. -/
def objectSpec (word : String) : MetricSpec :=
  ⟨none, none, some ⟨⟨none, "Service", "web"⟩, ⟨"backlog", none⟩, ⟨none, none, word, none⟩⟩, none,
    none, "Object"⟩

theorem target_kinds_agree_twoReady :
    Spread .object (twoReady.outcome ⟨"shop", .everything⟩ (objectSpec "Value"))
      (twoReady.outcome ⟨"shop", .everything⟩ (objectSpec "AverageValue")) ∧
    Spread .external (twoReady.outcome ⟨"shop", .everything⟩ (Gather.outsideSpec "queue"))
      (twoReady.outcome ⟨"shop", .everything⟩
        ((Gather.outsideSpec "queue").withTargetKind "AverageValue")) ∧
    Requesting twoReady.cluster ⟨"shop", .everything⟩ "cpu"
      (twoReady.outcome ⟨"shop", .everything⟩ (Gather.resourceSpec "cpu"))
      (twoReady.outcome ⟨"shop", .everything⟩
        ((Gather.resourceSpec "cpu").withTargetKind "Utilization")) := by
  have hobject : (objectSpec "Value").SameButTarget (objectSpec "AverageValue") := rfl
  have hexternal : (Gather.outsideSpec "queue").SameButTarget
      ((Gather.outsideSpec "queue").withTargetKind "AverageValue") := rfl
  have hresource : (Gather.resourceSpec "cpu").SameButTarget
      ((Gather.resourceSpec "cpu").withTargetKind "Utilization") := rfl
  exact ⟨(target_kinds_agree _ _ hobject).1 _ _ _ _ rfl rfl,
    (target_kinds_agree _ _ hexternal).2.1 _ _ rfl rfl,
    (target_kinds_agree _ _ hresource).2.2 _ _ rfl rfl⟩

/-- The share is rounded toward zero. -/
example :
    twoReady.outcome ⟨"shop", .everything⟩ (objectSpec "AverageValue") =
      .ok (.object ⟨.ofAverage ⟨-3, by decide, by decide⟩, some 2, .epoch⟩) := by
  decide

end ScaleMetrics
