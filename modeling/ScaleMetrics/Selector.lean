import ScaleMetrics.Dict

/-!
# Selector

Conditions on labels.  A selector is a list of conditions, and it matches a label map when every
condition holds of it (`Selector.selects_iff`); without conditions it matches every map.
-/

namespace ScaleMetrics

/-- Labels: values by key. -/
abbrev Labels := Dict String

/-- A condition on one label. -/
inductive Condition where
  /-- The label has this value. -/
  | equals (key value : String)
  /-- The label has one of these values. -/
  | among (key : String) (values : Names)
  /-- The label has none of these values, or is missing. -/
  | notAmong (key : String) (values : Names)
  | present (key : String)
  | absent (key : String)
  deriving Repr, DecidableEq

namespace Condition

/-- The condition holds of the labels. -/
def Holds (labels : Labels) : Condition → Prop
  | .equals key value => labels.get? key = some value
  | .among key values => ∃ value, labels.get? key = some value ∧ value ∈ values
  | .notAmong key values => ∀ value, labels.get? key = some value → value ∉ values
  | .present key => labels.get? key ≠ none
  | .absent key => labels.get? key = none

/-- Decides whether the condition holds. -/
def test (labels : Labels) : Condition → Bool
  | .equals key value => labels.get? key == some value
  | .among key values => (labels.get? key).any values.contains
  | .notAmong key values => !(labels.get? key).any values.contains
  | .present key => (labels.get? key).isSome
  | .absent key => (labels.get? key).isNone

theorem test_iff (labels : Labels) (condition : Condition) :
    condition.test labels = true ↔ condition.Holds labels := by
  cases condition with
  | equals key value => simp [test, Holds]
  | among key values => cases h : labels.get? key <;> simp [test, Holds, h, Names.contains_iff]
  | notAmong key values =>
    cases h : labels.get? key <;> simp [test, Holds, h, ← Names.contains_iff]
  | present key => simp [test, Holds, Option.isSome_iff_ne_none]
  | absent key => simp [test, Holds]

/-- A key with a list of values. -/
def listed (key word : String) (values : Names) : String :=
  key ++ " " ++ word ++ " (" ++ String.intercalate "," values.toList ++ ")"

/-- The text of a condition. -/
def text : Condition → String
  | .equals key value => key ++ "=" ++ value
  | .among key values => listed key "in" values
  | .notAmong key values => listed key "notin" values
  | .present key => key
  | .absent key => "!" ++ key

end Condition

/-- Conditions, in order. -/
structure Selector where
  conditions : List Condition
  deriving Repr, DecidableEq

namespace Selector

/-- The selector without conditions. -/
def everything : Selector :=
  ⟨[]⟩

/-- Every condition holds of the labels. -/
def selects (selector : Selector) (labels : Labels) : Bool :=
  selector.conditions.all (·.test labels)

theorem selects_iff (selector : Selector) (labels : Labels) :
    selector.selects labels = true ↔ ∀ c ∈ selector.conditions, c.Holds labels := by
  simp [Selector.selects, Condition.test_iff]

/-- There is no condition. -/
def selectsAll (selector : Selector) : Bool :=
  selector.conditions.isEmpty

/-- The text of a selector. -/
def text (selector : Selector) : String :=
  String.intercalate "," (selector.conditions.map Condition.text)

end Selector

end ScaleMetrics
