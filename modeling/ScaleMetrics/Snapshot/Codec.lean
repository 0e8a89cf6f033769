import ScaleMetrics.Json.Reader
import ScaleMetrics.MetricSpec.Codec
import ScaleMetrics.Snapshot
import ScaleMetrics.Workload.Codec

/-!
# Snapshot — Codec

Snapshots as documents and as texts.  Everything but the workload may be missing.
-/

namespace ScaleMetrics

namespace ObjectSample

/-- Reads the recorded value of an object. -/
def ofJson : Json.Decoder ObjectSample := fun document => do
  let fields ← Json.recordFields "sample" ["object", "metric", "value", "timestamp"] document
  let object ← Json.required fields "object" ObjectReference.ofJson
  let metric ← Json.required fields "metric" .text
  let value ← Json.required fields "value" .signed64
  let timestamp ← Json.required fields "timestamp" Instant.ofJson
  return ⟨object, metric, value, timestamp⟩

/-- Writes the recorded value of an object. -/
def toJson (s : ObjectSample) : Json :=
  Json.record
    [("object", some s.object.toJson), ("metric", some (.string s.metric)),
      ("value", some (Json.ofBounded s.value)), ("timestamp", some s.timestamp.toJson)]

end ObjectSample

namespace ExternalSample

/-- Reads a recorded series; its labels may be missing. -/
def ofJson : Json.Decoder ExternalSample := fun document => do
  let fields ← Json.recordFields "sample" ["metric", "labels", "value", "timestamp"] document
  let metric ← Json.required fields "metric" .text
  let labels ← Json.defaulted fields "labels" (.dict .text) Dict.empty
  let value ← Json.required fields "value" .signed64
  let timestamp ← Json.required fields "timestamp" Instant.ofJson
  return ⟨metric, labels, value, timestamp⟩

/-- Writes a recorded series. -/
def toJson (s : ExternalSample) : Json :=
  Json.record
    [("metric", some (.string s.metric)), ("labels", some (Json.ofDict .string s.labels)),
      ("value", some (Json.ofBounded s.value)), ("timestamp", some s.timestamp.toJson)]

end ExternalSample

namespace Snapshot

/-- No replicas. -/
def noReplicas : Signed32 :=
  ⟨0, by decide, by decide⟩

/-- Reads the scale of the target. -/
def scaleOfJson : Json.Decoder Signed32 := fun document => do
  let fields ← Json.recordFields "scale" ["replicas"] document
  Json.defaulted fields "replicas" .signed32 noReplicas

/-- The fields, in order. -/
def fieldNames : List String :=
  ["namespace", "workload", "scale", "metrics", "pods", "resourceMetrics", "podMetrics",
    "objectMetrics", "externalMetrics"]

/-- Reads a snapshot, of which only the workload must be there. -/
def ofJson : Json.Decoder Snapshot := fun document => do
  let fields ← Json.recordFields "snapshot" fieldNames document
  return {
    space := ← Json.defaulted fields "namespace" (.nullable .text) none
    workload := ← Json.required fields "workload" (Workload.ofJson (Json.depthLimit - 1))
    replicas := ← Json.defaulted fields "scale" scaleOfJson noReplicas
    specs := ← Json.defaulted fields "metrics" (.list MetricSpec.ofJson) []
    pods := ← Json.defaulted fields "pods" (.list (Pod.ofJson (Json.depthLimit - 2))) []
    resourceMetrics := ← Json.defaulted fields "resourceMetrics" (.dict Series.ofJson) Dict.empty
    podMetrics := ← Json.defaulted fields "podMetrics" (.dict Series.ofJson) Dict.empty
    objectMetrics := ← Json.defaulted fields "objectMetrics" (.list ObjectSample.ofJson) []
    externalMetrics := ← Json.defaulted fields "externalMetrics" (.list ExternalSample.ofJson) [] }

/-- Writes all of a snapshot. -/
def toJson (s : Snapshot) : Json :=
  Json.record
    [("namespace", some ((s.space.map .string).getD .null)), ("workload", some s.workload.toJson),
      ("scale", some (.object [("replicas", Json.ofBounded s.replicas)])),
      ("metrics", some (Json.ofList MetricSpec.toJson s.specs)),
      ("pods", some (Json.ofList Pod.toJson s.pods)),
      ("resourceMetrics", some (Json.ofDict Series.toJson s.resourceMetrics)),
      ("podMetrics", some (Json.ofDict Series.toJson s.podMetrics)),
      ("objectMetrics", some (Json.ofList ObjectSample.toJson s.objectMetrics)),
      ("externalMetrics", some (Json.ofList ExternalSample.toJson s.externalMetrics))]

/-- Why there is no snapshot. -/
inductive ReadFault where
  /-- The text is no snapshot. -/
  | malformed
  /-- The bytes are no text. -/
  | notText
  /-- The file cannot be read. -/
  | unreadable (path cause : String)
  deriving Repr, DecidableEq

/-- What was not done. -/
def ReadFault.message : ReadFault → String
  | .malformed => "Failed to parse snapshot"
  | .notText => "Failed to read snapshot"
  | .unreadable path _ => "Failed to read " ++ path

/-- The snapshot a text is. -/
def ofText (text : String) : Except ReadFault Snapshot :=
  match Json.read? text with
  | none => .error .malformed
  | some document => (ofJson document).mapError fun _ => .malformed

/-- The snapshot that some bytes are. -/
def ofBytes (bytes : ByteArray) : Except ReadFault Snapshot :=
  match String.fromUTF8? bytes with
  | some text => ofText text
  | none => .error .notText

end Snapshot

end ScaleMetrics
