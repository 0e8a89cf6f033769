import ScaleMetrics.MetricSpec
import ScaleMetrics.Sample
import ScaleMetrics.Workload

/-!
# Snapshot

The recorded state of a scale target: its workload, its specifications, the pods around it, and
what the metrics sources would answer.
-/

namespace ScaleMetrics

/-- The recorded value of an object. -/
structure ObjectSample where
  object : ObjectReference
  metric : String
  value : Milli
  timestamp : Instant
  deriving Repr, DecidableEq

/-- One recorded series of an outside system. -/
structure ExternalSample where
  metric : String
  labels : Labels
  value : Milli
  timestamp : Instant
  deriving Repr, DecidableEq

/-- A recorded state. -/
structure Snapshot where
  /-- The namespace. -/
  space : Option String
  workload : Workload
  replicas : Signed32
  specs : List MetricSpec
  pods : List Pod
  /-- Series of what pods use, by resource. -/
  resourceMetrics : Dict Series
  /-- Series of what pods report, by metric. -/
  podMetrics : Dict Series
  objectMetrics : List ObjectSample
  externalMetrics : List ExternalSample
  deriving Repr

end ScaleMetrics
