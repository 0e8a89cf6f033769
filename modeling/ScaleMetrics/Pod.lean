import ScaleMetrics.Metadata
import ScaleMetrics.Schema.Pod

/-!
# Pod

Pods as the cluster records them: metadata, containers with their resource requests, and status.
What no decision depends on is checked and kept as it is written (`other`).
-/

namespace ScaleMetrics

/-- The resources of a container: quantities by resource name. -/
structure Resources where
  limits : Option (Dict String)
  requests : Option (Dict String)
  /-- All other known fields. -/
  other : List (String × Json)
  deriving Repr

/-- A container of a pod. -/
structure Container where
  name : String
  resources : Option Resources
  /-- All other known fields. -/
  other : List (String × Json)
  deriving Repr

/-- What a pod is made of. -/
structure PodSpec where
  containers : List Container
  /-- All other known fields. -/
  other : List (String × Json)
  deriving Repr

/-- A condition that a pod reports about itself. -/
structure PodCondition where
  kind : String
  status : String
  lastTransitionTime : Option Instant
  /-- All other known fields. -/
  other : List (String × Json)
  deriving Repr

/-- What became of a pod so far. -/
structure PodStatus where
  conditions : Option (List PodCondition)
  phase : Option String
  startTime : Option Instant
  /-- All other known fields. -/
  other : List (String × Json)
  deriving Repr

/-- A pod. -/
structure Pod where
  metadata : Metadata
  spec : Option PodSpec
  status : Option PodStatus
  deriving Repr

namespace Container

/-- The quantity that the container requests of a resource. -/
def request? (c : Container) (resource : String) : Option String := do
  (← (← c.resources).requests).get? resource

end Container

namespace Pod

/-- The name; an unset name is the empty text. -/
def name (pod : Pod) : String :=
  pod.metadata.name.getD ""

/-- The labels, none if there is no map of them. -/
def labels (pod : Pod) : Labels :=
  pod.metadata.labels.getD Dict.empty

/-- The containers, none without a specification. -/
def containers (pod : Pod) : List Container :=
  match pod.spec with
  | some spec => spec.containers
  | none => []

/-- The selector selects the pod's labels. -/
def selectedBy (selector : Selector) (pod : Pod) : Bool :=
  selector.selects pod.labels

end Pod

/-! ### Reading and writing

In all readings `levels` is how deep the containers of what is kept as it is may nest. -/

namespace Resources

/-- Reads the resources of a container. -/
def ofJson (levels : Nat) : Json.Decoder Resources := fun document => do
  let members ← Json.Decoder.members "ResourceRequirements" document
  let limits ← Json.field? members "limits" (.dict .text)
  let requests ← Json.field? members "requests" (.dict .text)
  let other ← Schema.readOptional Schema.otherResources (levels - 1) members
  return ⟨limits, requests, other⟩

/-- Writes the resources of a container. -/
def toJson (r : Resources) : Json :=
  .object <| Json.present
    [("limits", r.limits.map (Json.ofDict .string)),
      ("requests", r.requests.map (Json.ofDict .string))] ++ r.other

end Resources

namespace Container

/-- Reads a container. -/
def ofJson (levels : Nat) : Json.Decoder Container := fun document => do
  let members ← Json.Decoder.members "Container" document
  let name ← Json.fieldD members "name" .text ""
  let resources ← Json.field? members "resources" (Resources.ofJson (levels - 1))
  let other ← Schema.readOptional Schema.otherContainer (levels - 1) members
  return ⟨name, resources, other⟩

/-- Writes a container. -/
def toJson (c : Container) : Json :=
  .object <| Json.present
    [("name", some (.string c.name)), ("resources", c.resources.map Resources.toJson)] ++ c.other

end Container

namespace PodSpec

/-- Reads what a pod is made of. -/
def ofJson (levels : Nat) : Json.Decoder PodSpec := fun document => do
  let members ← Json.Decoder.members "PodSpec" document
  let containers ← Json.fieldD members "containers" (.list (Container.ofJson (levels - 2))) []
  let other ← Schema.readOptional Schema.otherPodSpec (levels - 1) members
  return ⟨containers, other⟩

/-- Writes what a pod is made of. -/
def toJson (s : PodSpec) : Json :=
  .object (("containers", Json.ofList Container.toJson s.containers) :: s.other)

end PodSpec

namespace PodCondition

/-- Reads a condition. -/
def ofJson (levels : Nat) : Json.Decoder PodCondition := fun document => do
  let members ← Json.Decoder.members "PodCondition" document
  let lastTransitionTime ← Json.field? members "lastTransitionTime" Instant.ofJson
  let status ← Json.fieldD members "status" .text ""
  let kind ← Json.fieldD members "type" .text ""
  let other ← Schema.readOptional Schema.otherPodCondition (levels - 1) members
  return ⟨kind, status, lastTransitionTime, other⟩

/-- Writes a condition. -/
def toJson (c : PodCondition) : Json :=
  .object <| Json.present
    [("lastTransitionTime", c.lastTransitionTime.map Instant.toWholeJson),
      ("status", some (.string c.status)), ("type", some (.string c.kind))] ++ c.other

end PodCondition

namespace PodStatus

/-- Reads the status of a pod. -/
def ofJson (levels : Nat) : Json.Decoder PodStatus := fun document => do
  let members ← Json.Decoder.members "PodStatus" document
  let conditions ← Json.field? members "conditions" (.list (PodCondition.ofJson (levels - 2)))
  let phase ← Json.field? members "phase" .text
  let startTime ← Json.field? members "startTime" Instant.ofJson
  let other ← Schema.readOptional Schema.otherPodStatus (levels - 1) members
  return ⟨conditions, phase, startTime, other⟩

/-- Writes the status of a pod. -/
def toJson (s : PodStatus) : Json :=
  .object <| Json.present
    [("conditions", s.conditions.map (Json.ofList PodCondition.toJson)),
      ("phase", s.phase.map .string), ("startTime", s.startTime.map Instant.toWholeJson)] ++ s.other

end PodStatus

namespace Pod

/-- Reads a pod; if the document declares a type, it must be that of pods. -/
def ofJson (levels : Nat) : Json.Decoder Pod := fun document => do
  let members ← Json.Decoder.members "Pod" document
  Json.declares members "apiVersion" "v1"
  Json.declares members "kind" "Pod"
  let metadata ← Json.fieldD members "metadata" (Metadata.ofJson (levels - 1)) Metadata.empty
  let spec ← Json.field? members "spec" (PodSpec.ofJson (levels - 1))
  let status ← Json.field? members "status" (PodStatus.ofJson (levels - 1))
  return ⟨metadata, spec, status⟩

/-- Writes a pod, with its type. -/
def toJson (pod : Pod) : Json :=
  Json.record
    [("apiVersion", some (.string "v1")), ("kind", some (.string "Pod")),
      ("metadata", some pod.metadata.toJson), ("spec", pod.spec.map PodSpec.toJson),
      ("status", pod.status.map PodStatus.toJson)]

end Pod

end ScaleMetrics
