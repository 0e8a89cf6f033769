import ScaleMetrics.MetricSpec
import ScaleMetrics.Pod
import ScaleMetrics.Sample

/-!
# Cluster

What a run can ask a cluster: samples of metrics, the pods of a namespace, and the time.  An
answer is a function of the question; a failure is a text.
-/

namespace ScaleMetrics

/-- Access to recorded metrics.  Every metric is asked for by name, in a namespace. -/
structure MetricsClient where
  /-- The samples of a resource, of the selected pods. -/
  resource : (name space : String) → (pods : Selector) → Except String (Series × Instant)
  /-- The samples of a metric that pods report, of the selected pods and series. -/
  raw : (name space : String) → (pods series : Selector) → Except String (Series × Instant)
  /-- The value of a metric that describes an object. -/
  object : (name space : String) → ObjectReference → (series : Selector) →
    Except String (Milli × Instant)
  /-- The values of the selected series of an outside system. -/
  external : (name space : String) → (series : Selector) → Except String (List Milli × Instant)

/-- The selected pods of a namespace. -/
abbrev PodLister := (space : String) → Selector → Except String (List Pod)

/-- A cluster at one point in time. -/
structure Cluster where
  client : MetricsClient
  pods : PodLister
  now : Instant

end ScaleMetrics
