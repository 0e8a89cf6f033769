import ScaleMetrics.GatherError
import ScaleMetrics.Pod
import ScaleMetrics.Selector.Written

/-!
# Workload

The scale target whose pods are measured: a controller of a known kind, or any other object, read
through its `spec.selector`.

A controller states a label selector.  Another object may state a label selector, or a flat map
of labels to match; `Unstructured.labelSelector` tells them apart by their keys.
`Workload.selector` is the selector of the pods, and without a stated one it is an error.
-/

namespace ScaleMetrics

/-- The known kinds of controller. -/
inductive ControllerKind where
  | deployment
  | statefulSet
  | replicaSet
  deriving Repr, DecidableEq

namespace ControllerKind

/-- The name of a kind. -/
def name : ControllerKind → String
  | .deployment => "Deployment"
  | .statefulSet => "StatefulSet"
  | .replicaSet => "ReplicaSet"

/-- The kind of a name. -/
def ofName? (name : String) : Option ControllerKind :=
  if name = "Deployment" then some .deployment
  else if name = "StatefulSet" then some .statefulSet
  else if name = "ReplicaSet" then some .replicaSet
  else none

/-- The version of the interface that controllers belong to. -/
def apiVersion : String := "apps/v1"

theorem ofName?_name (kind : ControllerKind) : ofName? kind.name = some kind := by
  cases kind <;> decide

end ControllerKind

/-- What a controller keeps up: the pods it selects. -/
structure ControllerSpec where
  selector : LabelSelector
  /-- All other fields that controllers of the kind have. -/
  other : List (String × Json)
  deriving Repr

/-- A controller. -/
structure Controller where
  kind : ControllerKind
  metadata : Metadata
  spec : Option ControllerSpec
  /-- What became of it so far, as it is written. -/
  status : Option Json
  deriving Repr

/-- An object of any kind. -/
structure Unstructured where
  /-- The version of its interface and its kind, if it has both. -/
  type : Option (String × String)
  metadata : Metadata
  /-- All other members. -/
  data : List (String × Json)
  deriving Repr

/-- A scale target. -/
inductive Workload where
  | controller (c : Controller)
  | unstructured (o : Unstructured)
  deriving Repr

/-- Why no selector can be read. -/
inductive Workload.SelectorFault where
  /-- A controller without a specification. -/
  | noSpec
  /-- Another object without `spec.selector`. -/
  | notSet
  | notObject
  /-- A value of a flat map is no text. -/
  | notText (key : String)
  | malformed (reason : Json.DecodeError)
  deriving Repr, DecidableEq

/-- The text of a fault. -/
def Workload.SelectorFault.message : SelectorFault → String
  | .noSpec => "selector is not set"
  | .notSet => "spec.selector is not set"
  | .notObject => "spec.selector is not an object"
  | .notText key => "spec.selector." ++ key ++ " is not a string"
  | .malformed reason => reason.message

namespace Unstructured

/-- The kind: that of the type, or else the text under `kind`. -/
def kindName (o : Unstructured) : String :=
  match o.type with
  | some (_, kind) => kind
  | none => ((Json.lastMember? "kind" o.data).bind Json.string?).getD "Unknown"

/-- The value under `spec.selector`. -/
def statedSelector? (o : Unstructured) : Option Json := do
  (← Json.lastMember? "spec" o.data).get? "selector"

/-- A flat map of labels to match. -/
def flatLabels (members : List (String × Json)) : Except Workload.SelectorFault Labels :=
  members.foldlM (fun labels (key, value) =>
    match value with
    | .string text => .ok (labels.insert key text)
    | _ => .error (.notText key)) Dict.empty

/-- An object with this key is a label selector. -/
def isSelectorKey (key : String) : Bool :=
  key = "matchLabels" || key = "matchExpressions"

/-- The selector under `spec.selector`. -/
def labelSelector (o : Unstructured) : Except Workload.SelectorFault LabelSelector :=
  match o.statedSelector? with
  | none => .error .notSet
  | some (.object members) =>
    if members.any fun member => isSelectorKey member.1 then
      match LabelSelector.ofJson (.object members) with
      | .ok selector => .ok selector
      | .error reason => .error (.malformed reason)
    else (flatLabels members).map fun labels => ⟨some labels, none⟩
  | some _ => .error .notObject

end Unstructured

namespace Workload

/-- The name of the kind. -/
def kindName : Workload → String
  | .controller c => c.kind.name
  | .unstructured o => o.kindName

/-- What the workload says about itself. -/
def metadata : Workload → Metadata
  | .controller c => c.metadata
  | .unstructured o => o.metadata

/-- The name, if it has one. -/
def name? (w : Workload) : Option String :=
  w.metadata.name

/-- The kind and the name, for messages. -/
def describe (w : Workload) : String :=
  w.kindName ++ "/" ++ w.name?.getD "unnamed"

/-- The selector that the workload states. -/
def labelSelector : Workload → Except SelectorFault LabelSelector
  | .controller c =>
    match c.spec with
    | some spec => .ok spec.selector
    | none => .error .noSpec
  | .unstructured o => o.labelSelector

/-- The selector of the workload's pods. -/
def selector (w : Workload) : Except GatherError Selector :=
  match w.labelSelector with
  | .error fault =>
    .error <| .selector <|
      "unable to resolve pod selector for " ++ w.describe ++ ": " ++ fault.message
  | .ok written =>
    match written.selector with
    | .ok selector => .ok selector
    | .error fault => .error (.selector fault.message)

end Workload

end ScaleMetrics
