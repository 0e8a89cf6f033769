import ScaleMetrics.MetricSpec
import ScaleMetrics.Sample

/-!
# Metric

What is gathered for a specification: a payload by kind of source, beside the specification and
the number of replicas that the scale target has.
-/

namespace ScaleMetrics

/-- The current value of a metric that has one value. -/
structure CurrentValue where
  value : Option Milli
  averageValue : Option Milli
  averageUtilization : Option Signed32
  deriving Repr, DecidableEq

namespace CurrentValue

/-- No value at all. -/
def none : CurrentValue :=
  ⟨.none, .none, .none⟩

/-- A value as it is. -/
def ofValue (value : Milli) : CurrentValue :=
  { none with value := some value }

/-- A value spread over pods. -/
def ofAverage (average : Milli) : CurrentValue :=
  { none with averageValue := some average }

end CurrentValue

/-- The metric of an object or of an outside system. -/
structure ValueMetric where
  current : CurrentValue
  readyPodCount : Option Int
  timestamp : Instant
  deriving Repr, DecidableEq

/-- A metric that each pod reports. -/
structure PodsMetric where
  samples : Series
  readyPodCount : Int
  /-- Such metrics ignore no pods, and say so by having no set of them. -/
  ignored : Option Names
  missing : Names
  totalPods : Nat
  timestamp : Instant
  deriving Repr, DecidableEq

/-- What the pods use of a resource. -/
structure ResourceMetric where
  samples : Series
  /-- What each pod requests, when the target is a share of it. -/
  requests : Dict Milli
  readyPodCount : Int
  ignored : Names
  missing : Names
  totalPods : Nat
  timestamp : Instant
  deriving Repr, DecidableEq

/-- What was gathered, by kind of source. -/
inductive Payload where
  | object (metric : ValueMetric)
  | pods (metric : PodsMetric)
  | resource (metric : ResourceMetric)
  | external (metric : ValueMetric)
  deriving Repr, DecidableEq

namespace Payload

/-- The kind of source that the payload comes from. -/
def kind : Payload → SourceKind
  | .object _ => .object
  | .pods _ => .pods
  | .resource _ => .resource
  | .external _ => .external

/-- The number of ready pods, if the payload has it. -/
def readyPodCount? : Payload → Option Int
  | .object metric => metric.readyPodCount
  | .pods metric => some metric.readyPodCount
  | .resource metric => some metric.readyPodCount
  | .external metric => metric.readyPodCount

end Payload

/-- A gathered metric. -/
structure Metric where
  currentReplicas : Signed32
  spec : MetricSpec
  payload : Payload
  deriving Repr, DecidableEq

end ScaleMetrics
