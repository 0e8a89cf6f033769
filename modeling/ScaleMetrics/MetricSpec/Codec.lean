import ScaleMetrics.MetricSpec

/-!
# MetricSpec — Codec

Metric specifications as documents.  Every field may be missing; what must be there is written
all the same, with its empty value.
-/

namespace ScaleMetrics

namespace ObjectReference

/-- The reference that stands for a missing one. -/
def empty : ObjectReference :=
  ⟨none, "", ""⟩

/-- Reads the reference to an object. -/
def ofJson : Json.Decoder ObjectReference := fun document => do
  let members ← Json.Decoder.members "CrossVersionObjectReference" document
  let apiVersion ← Json.field? members "apiVersion" .text
  let kind ← Json.fieldD members "kind" .text ""
  let name ← Json.fieldD members "name" .text ""
  return ⟨apiVersion, kind, name⟩

/-- Writes the reference to an object. -/
def toJson (r : ObjectReference) : Json :=
  Json.record
    [("apiVersion", r.apiVersion.map .string), ("kind", some (.string r.kind)),
      ("name", some (.string r.name))]

end ObjectReference

namespace MetricIdentifier

/-- The identifier that stands for a missing one. -/
def empty : MetricIdentifier :=
  ⟨"", none⟩

/-- Reads an identifier of a metric. -/
def ofJson : Json.Decoder MetricIdentifier := fun document => do
  let members ← Json.Decoder.members "MetricIdentifier" document
  let name ← Json.fieldD members "name" .text ""
  let selector ← Json.field? members "selector" LabelSelector.ofJson
  return ⟨name, selector⟩

/-- Writes an identifier of a metric. -/
def toJson (m : MetricIdentifier) : Json :=
  Json.record
    [("name", some (.string m.name)), ("selector", m.selector.map LabelSelector.toJson)]

end MetricIdentifier

namespace MetricTarget

/-- The target that stands for a missing one. -/
def empty : MetricTarget :=
  ⟨none, none, "", none⟩

/-- Reads a target. -/
def ofJson : Json.Decoder MetricTarget := fun document => do
  let members ← Json.Decoder.members "MetricTarget" document
  let averageUtilization ← Json.field? members "averageUtilization" .signed32
  let averageValue ← Json.field? members "averageValue" .text
  let kind ← Json.fieldD members "type" .text ""
  let value ← Json.field? members "value" .text
  return ⟨averageUtilization, averageValue, kind, value⟩

/-- Writes a target. -/
def toJson (t : MetricTarget) : Json :=
  Json.record
    [("averageUtilization", t.averageUtilization.map Json.ofBounded),
      ("averageValue", t.averageValue.map .string), ("type", some (.string t.kind)),
      ("value", t.value.map .string)]

end MetricTarget

namespace ContainerResourceBlock

/-- Reads the block about a resource of one container. -/
def ofJson : Json.Decoder ContainerResourceBlock := fun document => do
  let members ← Json.Decoder.members "ContainerResourceMetricSource" document
  let container ← Json.fieldD members "container" .text ""
  let name ← Json.fieldD members "name" .text ""
  let target ← Json.fieldD members "target" MetricTarget.ofJson .empty
  return ⟨container, name, target⟩

/-- Writes the block about a resource of one container. -/
def toJson (b : ContainerResourceBlock) : Json :=
  Json.record
    [("container", some (.string b.container)), ("name", some (.string b.name)),
      ("target", some b.target.toJson)]

end ContainerResourceBlock

namespace ExternalBlock

/-- Reads the block about an outside system. -/
def ofJson : Json.Decoder ExternalBlock := fun document => do
  let members ← Json.Decoder.members "ExternalMetricSource" document
  let metric ← Json.fieldD members "metric" MetricIdentifier.ofJson .empty
  let target ← Json.fieldD members "target" MetricTarget.ofJson .empty
  return ⟨metric, target⟩

/-- Writes the block about an outside system. -/
def toJson (b : ExternalBlock) : Json :=
  Json.record [("metric", some b.metric.toJson), ("target", some b.target.toJson)]

end ExternalBlock

namespace ObjectBlock

/-- Reads the block about an object. -/
def ofJson : Json.Decoder ObjectBlock := fun document => do
  let members ← Json.Decoder.members "ObjectMetricSource" document
  let describedObject ← Json.fieldD members "describedObject" ObjectReference.ofJson .empty
  let metric ← Json.fieldD members "metric" MetricIdentifier.ofJson .empty
  let target ← Json.fieldD members "target" MetricTarget.ofJson .empty
  return ⟨describedObject, metric, target⟩

/-- Writes the block about an object. -/
def toJson (b : ObjectBlock) : Json :=
  Json.record
    [("describedObject", some b.describedObject.toJson), ("metric", some b.metric.toJson),
      ("target", some b.target.toJson)]

end ObjectBlock

namespace PodsBlock

/-- Reads the block about a metric that pods report. -/
def ofJson : Json.Decoder PodsBlock := fun document => do
  let members ← Json.Decoder.members "PodsMetricSource" document
  let metric ← Json.fieldD members "metric" MetricIdentifier.ofJson .empty
  let target ← Json.fieldD members "target" MetricTarget.ofJson .empty
  return ⟨metric, target⟩

/-- Writes the block about a metric that pods report. -/
def toJson (b : PodsBlock) : Json :=
  Json.record [("metric", some b.metric.toJson), ("target", some b.target.toJson)]

end PodsBlock

namespace ResourceBlock

/-- Reads the block about a resource. -/
def ofJson : Json.Decoder ResourceBlock := fun document => do
  let members ← Json.Decoder.members "ResourceMetricSource" document
  let name ← Json.fieldD members "name" .text ""
  let target ← Json.fieldD members "target" MetricTarget.ofJson .empty
  return ⟨name, target⟩

/-- Writes the block about a resource. -/
def toJson (b : ResourceBlock) : Json :=
  Json.record [("name", some (.string b.name)), ("target", some b.target.toJson)]

end ResourceBlock

namespace MetricSpec

/-- Reads a metric specification. -/
def ofJson : Json.Decoder MetricSpec := fun document => do
  let members ← Json.Decoder.members "MetricSpec" document
  let containerResource ← Json.field? members "containerResource" ContainerResourceBlock.ofJson
  let external ← Json.field? members "external" ExternalBlock.ofJson
  let object ← Json.field? members "object" ObjectBlock.ofJson
  let pods ← Json.field? members "pods" PodsBlock.ofJson
  let resource ← Json.field? members "resource" ResourceBlock.ofJson
  let kind ← Json.fieldD members "type" .text ""
  return ⟨containerResource, external, object, pods, resource, kind⟩

/-- Writes a metric specification. -/
def toJson (spec : MetricSpec) : Json :=
  Json.record
    [("containerResource", spec.containerResource.map ContainerResourceBlock.toJson),
      ("external", spec.external.map ExternalBlock.toJson),
      ("object", spec.object.map ObjectBlock.toJson),
      ("pods", spec.pods.map PodsBlock.toJson),
      ("resource", spec.resource.map ResourceBlock.toJson),
      ("type", some (.string spec.kind))]

end MetricSpec

end ScaleMetrics
