import ScaleMetrics.Cluster
import ScaleMetrics.Metric
import ScaleMetrics.MetricSpec.Source
import ScaleMetrics.Pod.Group
import ScaleMetrics.Pod.Requests
import ScaleMetrics.Telemetry.Trail

/-!
# Gather — Source

The payload of one source.  Samples of resources and of pods are grouped by the classes of the
pods; the value of an object or of an outside system is reported as it is, or spread over the
pods that are running and ready.
-/

namespace ScaleMetrics

/-- The pods of a scale target: their namespace and their selector. -/
structure ScaleTarget where
  space : String
  selector : Selector
  deriving Repr, DecidableEq

namespace Cluster

/-- The pods of a target. -/
def targetPods (cluster : Cluster) (target : ScaleTarget) : Trail (List Pod) :=
  .ask (.listPods target.space target.selector)
    "unable to get pods while calculating replica count"
    (cluster.pods target.space target.selector)

/-- The number of pods of a target that are running and ready. -/
def readyPodCount (cluster : Cluster) (target : ScaleTarget) : Trail Nat := do
  let pods ← cluster.targetPods target
  let ready := pods.countP fun pod => pod.facts.runningAndReady
  Trail.log (.countedReady target.space target.selector.text pods.length ready)
  return ready

/-! ### Resources -/

/-- The samples of a resource. -/
def resourceSamples (cluster : Cluster) (target : ScaleTarget) (name : String) :
    Trail (Series × Instant) :=
  .ask (.resourceMetric name target.space target.selector)
    ("unable to get metrics for resource " ++ name)
    (cluster.client.resource name target.space target.selector)

/-- What each pod requests, if the target is a share of it. -/
def requestsFor (pods : List Pod) (name : String) : ResourceTarget →
    Except GatherError (Dict Milli)
  | .averageValue => .ok Dict.empty
  | .utilization => Pod.requests pods name

/-- What the pods of a target use of a resource. -/
def resourceMetric (cluster : Cluster) (windows : GraceWindows) (target : ScaleTarget)
    (name : String) (kind : ResourceTarget) : Trail ResourceMetric := do
  let (series, timestamp) ← cluster.resourceSamples target name
  let pods ← cluster.targetPods target
  if pods.isEmpty then Trail.fail .noPods
  else
    let group := Group.ofPods pods series windows cluster.now
    let requests ← Trail.ofExcept (requestsFor pods name kind)
    Trail.log (.groupedPods name target.space group.total group.readyCount group.ignored.size
      group.missing.size)
    return {
      samples := group.ready
      requests := requests
      readyPodCount := group.readyCount
      ignored := group.ignored
      missing := group.missing
      totalPods := group.total
      timestamp := timestamp }

/-- What a resource metric comes to: the first failure among the samples, the pods, there being no
pods, and their requests; otherwise the group of the pods. -/
theorem resourceMetric_outcome (cluster : Cluster) (windows : GraceWindows) (target : ScaleTarget)
    (name : String) (kind : ResourceTarget) :
    (cluster.resourceMetric windows target name kind).outcome = do
      let (series, timestamp) ← (cluster.client.resource name target.space target.selector).mapError
        (.fetch ("unable to get metrics for resource " ++ name))
      let pods ← (cluster.pods target.space target.selector).mapError
        (.fetch "unable to get pods while calculating replica count")
      if pods.isEmpty then .error .noPods
      else
        let group := Group.ofPods pods series windows cluster.now
        let requests ← requestsFor pods name kind
        return {
          samples := group.ready
          requests := requests
          readyPodCount := group.readyCount
          ignored := group.ignored
          missing := group.missing
          totalPods := group.total
          timestamp := timestamp } := by
  simp only [resourceMetric, resourceSamples, targetPods, Trail.outcome_bind, Trail.outcome_ask]
  refine bind_congr fun ⟨series, timestamp⟩ => bind_congr fun pods => ?_
  split
  · rfl
  · rw [Trail.outcome_bind]
    rfl

/-- A resource metric of pods that are listed and samples that are found. -/
theorem resourceMetric_of_listed {cluster : Cluster} {target : ScaleTarget} {name : String}
    {pods : List Pod} {series : Series} {timestamp : Instant}
    (hsamples : cluster.client.resource name target.space target.selector = .ok (series, timestamp))
    (hlisted : cluster.pods target.space target.selector = .ok pods) (hpods : pods ≠ [])
    (windows : GraceWindows) (kind : ResourceTarget) :
    (cluster.resourceMetric windows target name kind).outcome = do
      let requests ← requestsFor pods name kind
      let group := Group.ofPods pods series windows cluster.now
      return ⟨group.ready, requests, group.readyCount, group.ignored, group.missing, group.total,
        timestamp⟩ := by
  have hisEmpty : pods.isEmpty = false := by simpa using hpods
  rw [resourceMetric_outcome, hsamples, hlisted]
  change (if pods.isEmpty then _ else _ : Except GatherError ResourceMetric) = _
  rw [hisEmpty]
  rfl

/-! ### Metrics that pods report -/

/-- The samples of a metric that pods report. -/
def rawSamples (cluster : Cluster) (target : ScaleTarget) (name : String) (series : Selector) :
    Trail (Series × Instant) :=
  .ask (.rawMetric name target.space target.selector series) ("unable to get metric " ++ name)
    (cluster.client.raw name target.space target.selector series)

/-- The metric of no pods. -/
def metricOfNoPods (now : Instant) : PodsMetric where
  samples := Dict.empty
  readyPodCount := 0
  ignored := none
  missing := Names.empty
  totalPods := 0
  timestamp := now

/-- A metric that the pods of a target report.  No pod is given time to start. -/
def podsMetric (cluster : Cluster) (target : ScaleTarget) (name : String) (series : Selector) :
    Trail PodsMetric := do
  let pods ← cluster.targetPods target
  if pods.isEmpty then do
    Trail.log (.noPods name target.space)
    return metricOfNoPods cluster.now
  else
    let (samples, timestamp) ← cluster.rawSamples target name series
    let group := Group.ofPods pods samples .disabled cluster.now
    return {
      samples := group.ready
      readyPodCount := group.readyCount
      ignored := none
      missing := group.missing
      totalPods := group.total
      timestamp := timestamp }

/-! ### Single values -/

/-- The metric of a value of which so many pods are ready. -/
def valueMetric (value : Milli) (ready : Nat) (timestamp : Instant) : ValueTarget → ValueMetric
  | .value => ⟨.ofValue value, some ready, timestamp⟩
  | .averageValue => ⟨.ofAverage (value.share ready), some ready, timestamp⟩

/-- The value of a metric that describes an object. -/
def objectValue (cluster : Cluster) (target : ScaleTarget) (object : ObjectReference)
    (name : String) (series : Selector) : Trail (Milli × Instant) :=
  .ask (.objectMetric name target.space object series)
    ("unable to get metric " ++ name ++ ": " ++ object.kind ++ " on " ++ target.space ++ " " ++
      object.name)
    (cluster.client.object name target.space object series)

/-- A metric that describes an object. -/
def objectMetric (cluster : Cluster) (target : ScaleTarget) (object : ObjectReference)
    (name : String) (series : Selector) (kind : ValueTarget) : Trail ValueMetric := do
  let (value, timestamp) ← cluster.objectValue target object name series
  let ready ← cluster.readyPodCount target
  return valueMetric value ready timestamp kind

/-- The values of the series of an outside system. -/
def externalValues (cluster : Cluster) (target : ScaleTarget) (name : String) (series : Selector) :
    Trail (List Milli × Instant) :=
  .ask (.externalMetric name target.space series)
    ("unable to get external metric " ++ target.space ++ "/" ++ name ++ "/\x7b" ++ series.text ++
      "\x7d")
    (cluster.client.external name target.space series)

/-- The sum of the values, if every sum from the left can be held. -/
def externalTotal (name : String) (values : List Milli) : Except GatherError Milli :=
  match Milli.sum? values with
  | some total => .ok total
  | none => .error (.overflow ("sum of external metric " ++ name))

/-- A metric of an outside system. -/
def externalMetric (cluster : Cluster) (target : ScaleTarget) (name : String) (series : Selector)
    (kind : ValueTarget) : Trail ValueMetric := do
  let (values, timestamp) ← cluster.externalValues target name series
  Trail.log (.fetchedExternal name values.length)
  let total ← Trail.ofExcept (externalTotal name values)
  let ready ← cluster.readyPodCount target
  return valueMetric total ready timestamp kind

end Cluster

end ScaleMetrics
