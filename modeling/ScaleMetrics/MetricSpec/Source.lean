import ScaleMetrics.MetricSpec
import ScaleMetrics.Text.Quoted

/-!
# MetricSpec — Source

What a well-formed specification asks for.  A specification is well formed when it has the block
of its kind and no other, the block names its metric, and the target suits the kind;
`MetricSpec.source` gives the source that the block describes, or the first fault.
-/

namespace ScaleMetrics

/-- What a resource metric aims at. -/
inductive ResourceTarget where
  | averageValue
  /-- A share of what the pods request. -/
  | utilization
  deriving Repr, DecidableEq

/-- What the metric of an object, or of an outside system, aims at. -/
inductive ValueTarget where
  | value
  /-- The value spread over the ready pods. -/
  | averageValue
  deriving Repr, DecidableEq

/-- What to measure. -/
inductive Source where
  | resource (name : String) (target : ResourceTarget)
  | pods (metric : MetricIdentifier)
  | object (reference : ObjectReference) (metric : MetricIdentifier) (target : ValueTarget)
  | external (metric : MetricIdentifier) (target : ValueTarget)
  deriving Repr, DecidableEq

/-- The kind of a source. -/
def Source.kind : Source → SourceKind
  | .resource .. => .resource
  | .pods .. => .pods
  | .object .. => .object
  | .external .. => .external

namespace MetricSpec

/-- Why a specification is not well formed. -/
inductive Fault where
  | unknownKind (kind : String)
  | otherBlocks (kind : SourceKind) (blocks : List String)
  | missingBlock (kind : SourceKind)
  | emptyName (kind : SourceKind)
  | unsuitableTarget (kind : SourceKind)
  deriving Repr, DecidableEq

/-- The rule about names that a kind of source has. -/
def nameRule : SourceKind → String
  | .resource => "name must be set"
  | _ => "metric name must be set"

/-- The rule about targets that a kind of source has. -/
def targetRule : SourceKind → String
  | .resource => "must be either average value or average utilization"
  | .pods => "must be average value"
  | _ => "must be either value or average value"

/-- A message about a kind of source. -/
def Fault.about (kind : SourceKind) (reason : String) : String :=
  "invalid " ++ kind.name ++ " metric source: " ++ reason

/-- The text of a fault: the kind of source and the rule it breaks. -/
def Fault.message : Fault → String
  | .unknownKind kind => "unknown metric source type " ++ Text.quoted kind
  | .otherBlocks kind blocks => about kind ("must not set " ++ String.intercalate ", " blocks)
  | .missingBlock kind => about kind (kind.name ++ " must be set")
  | .emptyName kind => about kind (nameRule kind)
  | .unsuitableTarget kind => about kind (targetRule kind)

/-- A block's name in messages, when the block is there. -/
def blockName {α : Type} (block : Option α) (name : String) : List String :=
  match block with
  | some _ => [name]
  | none => []

/-- The names of the blocks that are there. -/
def blocks (spec : MetricSpec) : List String :=
  blockName spec.object SourceKind.object.name ++ blockName spec.pods SourceKind.pods.name ++
    blockName spec.resource SourceKind.resource.name ++
    blockName spec.external SourceKind.external.name ++
    blockName spec.containerResource "container resource"

/-- The block of a kind must be there. -/
def need {α : Type} (kind : SourceKind) : Option α → Except Fault α
  | some block => .ok block
  | none => .error (.missingBlock kind)

/-- A name must not be empty. -/
def named (kind : SourceKind) (name : String) : Except Fault Unit :=
  if name = "" then .error (.emptyName kind) else .ok ()

/-- The target of a resource. -/
def resourceTarget (target : MetricTarget) : Except Fault ResourceTarget :=
  if target.kind = "AverageValue" then .ok .averageValue
  else if target.kind = "Utilization" then .ok .utilization
  else .error (.unsuitableTarget .resource)

/-- The target of an object or an outside system. -/
def valueTarget (kind : SourceKind) (target : MetricTarget) : Except Fault ValueTarget :=
  if target.kind = "Value" then .ok .value
  else if target.kind = "AverageValue" then .ok .averageValue
  else .error (.unsuitableTarget kind)

/-- The source that the block of a kind describes. -/
def sourceOf (spec : MetricSpec) : SourceKind → Except Fault Source
  | .resource => do
    let block ← need .resource spec.resource
    named .resource block.name
    return .resource block.name (← resourceTarget block.target)
  | .pods => do
    let block ← need .pods spec.pods
    named .pods block.metric.name
    if block.target.kind = "AverageValue" then return .pods block.metric
    else throw (.unsuitableTarget .pods)
  | .object => do
    let block ← need .object spec.object
    named .object block.metric.name
    return .object block.describedObject block.metric (← valueTarget .object block.target)
  | .external => do
    let block ← need .external spec.external
    named .external block.metric.name
    return .external block.metric (← valueTarget .external block.target)

/-- The source that the specification asks for. -/
def source (spec : MetricSpec) : Except Fault Source :=
  match spec.sourceKind? with
  | none => .error (.unknownKind spec.kind)
  | some kind =>
    match spec.blocks.filter (· ≠ kind.name) with
    | [] => spec.sourceOf kind
    | others => .error (.otherBlocks kind others)

end MetricSpec

end ScaleMetrics
