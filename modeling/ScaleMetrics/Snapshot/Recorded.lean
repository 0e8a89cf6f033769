import ScaleMetrics.Cluster
import ScaleMetrics.Snapshot

/-!
# Snapshot — Recorded

A snapshot as the cluster that a run asks.  Namespaces do not matter; the pods of the snapshot are
those of any namespace.  Samples are those of the selected pods, with the time of the latest of
them.
-/

namespace ScaleMetrics

namespace Snapshot

/-- The selected pods. -/
def selectedPods (snapshot : Snapshot) (selector : Selector) : List Pod :=
  snapshot.pods.filter (Pod.selectedBy selector)

/-- The names that selected pods have. -/
def selectedNames (snapshot : Snapshot) (selector : Selector) : List String :=
  (snapshot.selectedPods selector).filterMap (·.metadata.name)

/-- The samples of the selected pods, and the time of the latest; without any, the time at which
the snapshot was loaded. -/
def selectSamples (snapshot : Snapshot) (captured : Instant) (series : Series)
    (selector : Selector) : Series × Instant :=
  let selected := series.filterKeys (snapshot.selectedNames selector).contains
  (selected, (Series.latest? selected).getD captured)

/-- The samples of a series of the snapshot. -/
def samples (snapshot : Snapshot) (captured : Instant) (recorded : Dict Series) (api name : String)
    (selector : Selector) : Except String (Series × Instant) :=
  match recorded.get? name with
  | some series => .ok (snapshot.selectSamples captured series selector)
  | none => .error ("no metrics returned from " ++ api ++ " metrics API")

/-- The first recorded value of a metric of an object of this kind and name. -/
def objectValue (snapshot : Snapshot) (name : String) (object : ObjectReference) :
    Except String (Milli × Instant) :=
  match snapshot.objectMetrics.find? fun s =>
      s.metric = name && s.object.kind = object.kind && s.object.name = object.name with
  | some sample => .ok (sample.value, sample.timestamp)
  | none => .error "no metrics returned from custom metrics API"

/-- The recorded series of a metric whose labels are selected. -/
def externalSeries (snapshot : Snapshot) (name : String) (selector : Selector) :
    List ExternalSample :=
  snapshot.externalMetrics.filter fun s => s.metric = name && selector.selects s.labels

/-- The values of the recorded series, and the time of the latest. -/
def externalValues (snapshot : Snapshot) (name : String) (selector : Selector) :
    Except String (List Milli × Instant) :=
  let series := snapshot.externalSeries name selector
  match Instant.latest? (series.map (·.timestamp)) with
  | some timestamp => .ok (series.map (·.value), timestamp)
  | none => .error "no metrics returned from external metrics API"

/-- The snapshot as a metrics client. -/
def client (snapshot : Snapshot) (captured : Instant) : MetricsClient where
  resource name _ pods := snapshot.samples captured snapshot.resourceMetrics "resource" name pods
  raw name _ pods _ := snapshot.samples captured snapshot.podMetrics "custom" name pods
  object name _ object _ := snapshot.objectValue name object
  external name _ series := snapshot.externalValues name series

/-- The snapshot as a list of pods. -/
def lister (snapshot : Snapshot) : PodLister :=
  fun _ selector => .ok (snapshot.selectedPods selector)

/-- The snapshot as a cluster. -/
def cluster (snapshot : Snapshot) (captured now : Instant) : Cluster :=
  ⟨snapshot.client captured, snapshot.lister, now⟩

end Snapshot

end ScaleMetrics
