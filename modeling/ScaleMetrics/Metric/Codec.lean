import ScaleMetrics.Metric
import ScaleMetrics.MetricSpec.Codec

/-!
# Metric — Codec

Metrics as documents.  The payload stands beside the specification, under the name of its kind;
the first member of such a name is the payload, and other members are passed over.
-/

namespace ScaleMetrics

namespace CurrentValue

/-- Reads a current value, in which anything may be missing. -/
def ofJson : Json.Decoder CurrentValue := fun document => do
  let fields ← Json.recordFields "value" ["value", "average_value", "average_utilization"] document
  let value ← Json.defaulted fields "value" (.nullable .signed64) .none
  let averageValue ← Json.defaulted fields "average_value" (.nullable .signed64) .none
  let averageUtilization ← Json.defaulted fields "average_utilization" (.nullable .signed32) .none
  return ⟨value, averageValue, averageUtilization⟩

/-- Writes what there is of a current value. -/
def toJson (v : CurrentValue) : Json :=
  Json.record
    [("value", v.value.map Json.ofBounded), ("average_value", v.averageValue.map Json.ofBounded),
      ("average_utilization", v.averageUtilization.map Json.ofBounded)]

end CurrentValue

/-- A count of 64 bits with sign. -/
def Json.Decoder.count : Json.Decoder Int := fun document =>
  (Json.Decoder.signed64 document).map (·.val)

namespace ValueMetric

/-- Reads the metric of a single value. -/
def ofJson : Json.Decoder ValueMetric := fun document => do
  let fields ← Json.recordFields "metric" ["current", "ready_pod_count", "timestamp"] document
  let current ← Json.required fields "current" CurrentValue.ofJson
  let readyPodCount ← Json.defaulted fields "ready_pod_count" (.nullable .count) .none
  let timestamp ← Json.required fields "timestamp" Instant.ofJson
  return ⟨current, readyPodCount, timestamp⟩

/-- Writes the metric of a single value. -/
def toJson (m : ValueMetric) : Json :=
  Json.record
    [("current", some m.current.toJson), ("ready_pod_count", m.readyPodCount.map Json.int),
      ("timestamp", some m.timestamp.toJson)]

end ValueMetric

namespace PodsMetric

/-- The fields, in order. -/
def fieldNames : List String :=
  ["pod_metrics_info", "ready_pod_count", "ignored_pods", "missing_pods", "total_pods", "timestamp"]

/-- Reads a metric that pods report. -/
def ofJson : Json.Decoder PodsMetric := fun document => do
  let fields ← Json.recordFields "metric" fieldNames document
  let samples ← Json.required fields "pod_metrics_info" Series.ofJson
  let readyPodCount ← Json.required fields "ready_pod_count" .count
  let ignored ← Json.defaulted fields "ignored_pods" (.nullable .names) .none
  let missing ← Json.required fields "missing_pods" .names
  let totalPods ← Json.required fields "total_pods" .word64
  let timestamp ← Json.required fields "timestamp" Instant.ofJson
  return ⟨samples, readyPodCount, ignored, missing, totalPods, timestamp⟩

/-- Writes a metric that pods report; a missing set of ignored pods is null. -/
def toJson (m : PodsMetric) : Json :=
  Json.record
    [("pod_metrics_info", some m.samples.toJson), ("ready_pod_count", some (.int m.readyPodCount)),
      ("ignored_pods", some ((m.ignored.map Json.ofNames).getD .null)),
      ("missing_pods", some (Json.ofNames m.missing)), ("total_pods", some (.int m.totalPods)),
      ("timestamp", some m.timestamp.toJson)]

end PodsMetric

namespace ResourceMetric

/-- The fields, in order. -/
def fieldNames : List String :=
  ["pod_metrics_info", "requests", "ready_pod_count", "ignored_pods", "missing_pods",
    "total_pods", "timestamp"]

/-- Reads what pods use of a resource. -/
def ofJson : Json.Decoder ResourceMetric := fun document => do
  let fields ← Json.recordFields "metric" fieldNames document
  let samples ← Json.required fields "pod_metrics_info" Series.ofJson
  let requests ← Json.defaulted fields "requests" (.dict .signed64) Dict.empty
  let readyPodCount ← Json.required fields "ready_pod_count" .count
  let ignored ← Json.required fields "ignored_pods" .names
  let missing ← Json.required fields "missing_pods" .names
  let totalPods ← Json.required fields "total_pods" .word64
  let timestamp ← Json.required fields "timestamp" Instant.ofJson
  return ⟨samples, requests, readyPodCount, ignored, missing, totalPods, timestamp⟩

/-- Writes what pods use of a resource; an empty map of requests is left out. -/
def toJson (m : ResourceMetric) : Json :=
  Json.record
    [("pod_metrics_info", some m.samples.toJson),
      ("requests",
        if m.requests.isEmpty then .none else some (Json.ofDict Json.ofBounded m.requests)),
      ("ready_pod_count", some (.int m.readyPodCount)),
      ("ignored_pods", some (Json.ofNames m.ignored)),
      ("missing_pods", some (Json.ofNames m.missing)), ("total_pods", some (.int m.totalPods)),
      ("timestamp", some m.timestamp.toJson)]

end ResourceMetric

namespace Payload

/-- The reading of a payload under a key, if it is the name of a kind. -/
def decoder? (key : String) : Option (Json.Decoder Payload) :=
  if key = SourceKind.object.name then some fun j => (ValueMetric.ofJson j).map .object
  else if key = SourceKind.pods.name then some fun j => (PodsMetric.ofJson j).map .pods
  else if key = SourceKind.resource.name then some fun j => (ResourceMetric.ofJson j).map .resource
  else if key = SourceKind.external.name then some fun j => (ValueMetric.ofJson j).map .external
  else none

/-- The payload of the first member that is named for a kind. -/
def ofMembers : List (String × Json) → Except Json.DecodeError Payload
  | [] => .error (.missing "payload")
  | (key, value) :: rest =>
    match decoder? key with
    | some decode => decode value
    | none => ofMembers rest

/-- Writes a payload, without its key. -/
def toJson : Payload → Json
  | .object metric => metric.toJson
  | .pods metric => metric.toJson
  | .resource metric => metric.toJson
  | .external metric => metric.toJson

end Payload

namespace Metric

/-- The fields of a metric that are not its payload. -/
def fieldNames : List String :=
  ["current_replicas", "spec"]

/-- The members that can be the payload must denote something, whether they are read or not. -/
def candidates (members : List (String × Json)) :
    Except Json.DecodeError (List (String × Json)) :=
  let others := members.filter fun member => !fieldNames.contains member.1
  if others.all fun member => member.2.usable (Json.depthLimit - 1) then .ok others
  else .error (.malformed "value")

/-- Reads a metric from an object. -/
def ofJson : Json.Decoder Metric := fun document => do
  let members ← Json.Decoder.members "metric" document
  let fields ← Json.recordFields "metric" fieldNames document
  let currentReplicas ← Json.required fields "current_replicas" .signed32
  let spec ← Json.required fields "spec" MetricSpec.ofJson
  let payload ← Payload.ofMembers (← candidates members)
  return ⟨currentReplicas, spec, payload⟩

/-- Writes a metric, its payload under the name of its kind. -/
def toJson (m : Metric) : Json :=
  Json.record
    [("current_replicas", some (Json.ofBounded m.currentReplicas)), ("spec", some m.spec.toJson),
      (m.payload.kind.name, some m.payload.toJson)]

end Metric

end ScaleMetrics
