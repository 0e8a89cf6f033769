import ScaleMetrics.Schema.Controller
import ScaleMetrics.Workload

/-!
# Workload — Codec

Workloads as documents.  An object of version `apps/v1` and of a known kind is a controller; every
other object is kept as it is, apart from its type and its metadata.  The type is read from both
`apiVersion` and `kind`, in this order; where the reading ends, what it has read is used up.
-/

namespace ScaleMetrics

namespace ControllerKind

/-- All fields of the specification but the selector. -/
def otherSpec : ControllerKind → Schema.Fields
  | .deployment => Schema.otherDeployment
  | .statefulSet => Schema.otherStatefulSet
  | .replicaSet => Schema.otherReplicaSet

/-- The status. -/
def status : ControllerKind → Schema
  | .deployment => Schema.deploymentStatus
  | .statefulSet => Schema.statefulSetStatus
  | .replicaSet => Schema.replicaSetStatus

end ControllerKind

namespace ControllerSpec

/-- Reads what a controller of a kind keeps up; without a selector it has the empty one. -/
def ofJson (kind : ControllerKind) (levels : Nat) : Json.Decoder ControllerSpec :=
  fun document => do
    let members ← Json.Decoder.members (kind.name ++ "Spec") document
    let selector ← Json.fieldD members "selector" LabelSelector.ofJson .empty
    let other ← kind.otherSpec.read (levels - 1) members
    return ⟨selector, other⟩

/-- Writes what a controller keeps up. -/
def toJson (s : ControllerSpec) : Json :=
  .object (("selector", s.selector.toJson) :: s.other)

end ControllerSpec

namespace Controller

/-- Reads a controller of a kind; if the document declares a type, it must be that of the kind.
`levels` is how deep the containers of what is kept as it is may nest. -/
def ofJson (kind : ControllerKind) (levels : Nat) : Json.Decoder Controller := fun document => do
  let members ← Json.Decoder.members kind.name document
  Json.declares members "apiVersion" ControllerKind.apiVersion
  Json.declares members "kind" kind.name
  let metadata ← Json.fieldD members "metadata" (Metadata.ofJson (levels - 1)) Metadata.empty
  let spec ← Json.field? members "spec" (ControllerSpec.ofJson kind (levels - 1))
  let status ← Json.field? members "status" (kind.status.read (levels - 1))
  return ⟨kind, metadata, spec, status⟩

/-- Writes a controller, with its type. -/
def toJson (c : Controller) : Json :=
  Json.record
    [("apiVersion", some (.string ControllerKind.apiVersion)), ("kind", some (.string c.kind.name)),
      ("metadata", some c.metadata.toJson), ("spec", c.spec.map ControllerSpec.toJson),
      ("status", c.status)]

end Controller

namespace Unstructured

/-- The type of an object, and which of the two members its reading uses up. -/
def readType (members : List (String × Json)) : Option (String × String) × List String :=
  match Json.lastMember? "apiVersion" members, Json.lastMember? "kind" members with
  | some (.string version), some (.string kind) => (some (version, kind), ["apiVersion", "kind"])
  | some (.string _), _ => (none, ["apiVersion", "kind"])
  | some _, _ => (none, ["apiVersion"])
  | none, _ => (none, ["kind"])

/-- Reads an object of any kind; its metadata may be missing, but not null. -/
def ofJson (levels : Nat) : Json.Decoder Unstructured := fun document => do
  let members ← Json.Decoder.members "object" document
  let (type, used) := readType members
  let metadata ← Json.defaulted members "metadata" (Metadata.ofJson (levels - 1)) Metadata.empty
  return ⟨type, metadata, members.filter fun member =>
    member.1 ≠ "metadata" && !used.contains member.1⟩

/-- The members of the type. -/
def typeMembers (type : Option (String × String)) : List (String × Json) :=
  match type with
  | some (version, kind) => [("apiVersion", .string version), ("kind", .string kind)]
  | none => []

/-- Writes an object of any kind. -/
def toJson (o : Unstructured) : Json :=
  .object (typeMembers o.type ++ [("metadata", o.metadata.toJson)] ++ o.data)

end Unstructured

namespace Workload

/-- The kind of controller that a document declares. -/
def declaredKind? (document : Json) : Option ControllerKind := do
  let version ← (← document.get? "apiVersion").string?
  let kind ← (← document.get? "kind").string?
  if version = ControllerKind.apiVersion then ControllerKind.ofName? kind else none

/-- Reads a workload from a document in canonical form. -/
def ofCanonical (levels : Nat) : Json.Decoder Workload := fun document =>
  match declaredKind? document with
  | some kind => (Controller.ofJson kind levels document).map .controller
  | none => (Unstructured.ofJson levels document).map .unstructured

/-- Reads a workload.  All of the document must denote something, because all of it is kept;
`levels` is how deep its containers may nest. -/
def ofJson (levels : Nat) : Json.Decoder Workload := fun document => do
  ofCanonical levels (← Json.Decoder.raw levels document)

/-- Writes a workload. -/
def toJson : Workload → Json
  | .controller c => c.toJson
  | .unstructured o => o.toJson

end Workload

end ScaleMetrics
