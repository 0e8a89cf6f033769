import ScaleMetrics.Selector.Written

/-!
# MetricSpec

Metric specifications of an autoscaler: a kind, and blocks of which the one of that kind says
what to measure and what to aim at.  Nothing keeps a specification from having the wrong block,
or several; `MetricSpec.source` of `MetricSpec.Source` sorts those out.
-/

namespace ScaleMetrics

/-- An object that a metric describes. -/
structure ObjectReference where
  apiVersion : Option String
  kind : String
  name : String
  deriving Repr, DecidableEq

/-- A metric's name, and which of its series are meant. -/
structure MetricIdentifier where
  name : String
  selector : Option LabelSelector
  deriving Repr, DecidableEq

/-- What a metric aims at. -/
structure MetricTarget where
  averageUtilization : Option Signed32
  averageValue : Option String
  kind : String
  value : Option String
  deriving Repr, DecidableEq

/-- The block about a resource of one container of each pod. -/
structure ContainerResourceBlock where
  container : String
  name : String
  target : MetricTarget
  deriving Repr, DecidableEq

/-- The block about a metric of an outside system. -/
structure ExternalBlock where
  metric : MetricIdentifier
  target : MetricTarget
  deriving Repr, DecidableEq

/-- The block about a metric that describes an object. -/
structure ObjectBlock where
  describedObject : ObjectReference
  metric : MetricIdentifier
  target : MetricTarget
  deriving Repr, DecidableEq

/-- The block about a metric that pods report. -/
structure PodsBlock where
  metric : MetricIdentifier
  target : MetricTarget
  deriving Repr, DecidableEq

/-- The block about a resource that pods use. -/
structure ResourceBlock where
  name : String
  target : MetricTarget
  deriving Repr, DecidableEq

/-- A metric specification. -/
structure MetricSpec where
  containerResource : Option ContainerResourceBlock
  external : Option ExternalBlock
  object : Option ObjectBlock
  pods : Option PodsBlock
  resource : Option ResourceBlock
  kind : String
  deriving Repr, DecidableEq

/-- The kinds of source that can be measured. -/
inductive SourceKind where
  | object
  | pods
  | resource
  | external
  deriving Repr, DecidableEq

namespace SourceKind

/-- The kind that a specification names. -/
def ofSpecKind? (kind : String) : Option SourceKind :=
  if kind = "Object" then some .object
  else if kind = "Pods" then some .pods
  else if kind = "Resource" then some .resource
  else if kind = "External" then some .external
  else none

/-- The name of a kind in messages and labels. -/
def name : SourceKind → String
  | .object => "object"
  | .pods => "pods"
  | .resource => "resource"
  | .external => "external"

end SourceKind

namespace MetricSpec

/-- The kind of source, if it is one that can be measured. -/
def sourceKind? (spec : MetricSpec) : Option SourceKind :=
  SourceKind.ofSpecKind? spec.kind

/-- The label of a specification: the name of its kind of source, or the kind as it stands. -/
def label (spec : MetricSpec) : String :=
  match spec.sourceKind? with
  | some kind => kind.name
  | none => spec.kind

/-- The name of the metric in the first block that there is. -/
def metricName? (spec : MetricSpec) : Option String :=
  (spec.resource.map (·.name)).or <| (spec.pods.map (·.metric.name)).or <|
    (spec.object.map (·.metric.name)).or <| spec.external.map (·.metric.name)

/-- The kind of target in the first block that there is. -/
def targetKind? (spec : MetricSpec) : Option String :=
  (spec.resource.map (·.target.kind)).or <| (spec.pods.map (·.target.kind)).or <|
    (spec.object.map (·.target.kind)).or <| spec.external.map (·.target.kind)

end MetricSpec

end ScaleMetrics
