import ScaleMetrics.Json.Decoder
import ScaleMetrics.Selector

/-!
# Selector — Written

Label selectors as they are written: labels to match, and requirements with an operator.
`LabelSelector.selector` turns one into conditions.  It looks at every requirement's key and
values before it looks at any operator, so the first bad key or list of values is what it reports.
-/

namespace ScaleMetrics

/-- A written requirement. -/
structure Requirement where
  key : String
  operator : String
  values : Option (List String)
  deriving Repr, DecidableEq

/-- A written selector. -/
structure LabelSelector where
  matchLabels : Option Labels
  matchExpressions : Option (List Requirement)
  deriving Repr, DecidableEq

/-- Why a written selector stands for no conditions. -/
inductive LabelSelector.Fault where
  | emptyKey
  | missingValues (operator key : String)
  | surplusValues (operator key : String)
  | unknownOperator
  deriving Repr, DecidableEq

/-- The text of a fault. -/
def LabelSelector.Fault.message : Fault → String
  | .emptyKey => "invalid selector: requirement key must not be empty"
  | .missingValues operator key =>
    "invalid selector: values must be non-empty for " ++ operator ++ " on key " ++ key
  | .surplusValues operator key =>
    "invalid selector: values must be empty for " ++ operator ++ " on key " ++ key
  | .unknownOperator =>
    "invalid selector: failed to parse value as expression: Invalid expression operator"

namespace Requirement

/-- The values, none if there is no list. -/
def valueList (r : Requirement) : List String :=
  r.values.getD []

/-- What is wrong with the key or the values. -/
def fault? (r : Requirement) : Option LabelSelector.Fault :=
  if r.key = "" then some .emptyKey
  else if (r.operator = "In" ∨ r.operator = "NotIn") ∧ r.valueList = [] then
    some (.missingValues r.operator r.key)
  else if (r.operator = "Exists" ∨ r.operator = "DoesNotExist") ∧ r.valueList ≠ [] then
    some (.surplusValues r.operator r.key)
  else none

/-- The condition that the operator makes of the key and the values. -/
def condition? (r : Requirement) : Option Condition :=
  if r.operator = "In" then some (.among r.key (Names.ofList r.valueList))
  else if r.operator = "NotIn" then some (.notAmong r.key (Names.ofList r.valueList))
  else if r.operator = "Exists" then some (.present r.key)
  else if r.operator = "DoesNotExist" then some (.absent r.key)
  else none

/-- Reads a requirement. -/
def ofJson : Json.Decoder Requirement := fun document => do
  let members ← Json.Decoder.members "LabelSelectorRequirement" document
  let key ← Json.fieldD members "key" .text ""
  let operator ← Json.fieldD members "operator" .text ""
  let values ← Json.field? members "values" (.list .text)
  return ⟨key, operator, values⟩

/-- Writes a requirement. -/
def toJson (r : Requirement) : Json :=
  Json.record
    [("key", some (.string r.key)), ("operator", some (.string r.operator)),
      ("values", r.values.map (Json.ofList .string))]

end Requirement

namespace LabelSelector

/-- The written selector without requirements. -/
def empty : LabelSelector :=
  ⟨none, none⟩

/-- The labels to match, in order. -/
def labelList (s : LabelSelector) : List (String × String) :=
  (s.matchLabels.getD Dict.empty).toList

/-- The requirements, none if there is no list. -/
def requirements (s : LabelSelector) : List Requirement :=
  s.matchExpressions.getD []

/-- The conditions that the written selector stands for, the labels to match first. -/
def selector (s : LabelSelector) : Except Fault Selector :=
  match s.requirements.findSome? Requirement.fault? with
  | some fault => .error fault
  | none =>
    match s.requirements.mapM Requirement.condition? with
    | some conditions =>
      .ok ⟨s.labelList.map (fun (key, value) => .equals key value) ++ conditions⟩
    | none => .error .unknownOperator

/-- Reads a written selector. -/
def ofJson : Json.Decoder LabelSelector := fun document => do
  let members ← Json.Decoder.members "LabelSelector" document
  let expressions ← Json.field? members "matchExpressions" (.list Requirement.ofJson)
  let labels ← Json.field? members "matchLabels" (.dict .text)
  return ⟨labels, expressions⟩

/-- Writes a selector. -/
def toJson (s : LabelSelector) : Json :=
  Json.record
    [("matchExpressions", s.matchExpressions.map (Json.ofList Requirement.toJson)),
      ("matchLabels", s.matchLabels.map (Json.ofDict .string))]

end LabelSelector

end ScaleMetrics
