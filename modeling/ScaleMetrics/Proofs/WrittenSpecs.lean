import ScaleMetrics.MetricSpec.Codec
import ScaleMetrics.Proofs.Stability

/-!
# Proofs — Written specifications

A metric specification is read back from what is written for it (`MetricSpec.written`), whichever
of its fields are there, and so from the canonical form of that (`MetricSpec.stable`).  The same
holds of each of its parts.
-/

namespace ScaleMetrics

open Json

/-! ### Selectors -/

namespace Requirement

theorem written (r : Requirement) : Written ofJson toJson r := by
  refine ⟨?_, object_ne_null _⟩
  refine bind_ok (members_eq_ok.2 rfl) <|
    bind_ok (fieldD_written r.key (by simp) (written_text _)) <|
    bind_ok (fieldD_written r.operator (by simp) (written_text _)) <|
    bind_ok (field?_written r.values (by simp) fun _ _ => written_texts _) ?_
  rfl

theorem stable : Stable ofJson :=
  StableUnder.object
    ((stable_text.fieldD "key" "").bind fun _ =>
      (stable_text.fieldD "operator" "").bind fun _ =>
      (stable_text.list.field? "values").bind fun _ => .pure _) _

end Requirement

namespace LabelSelector

theorem written (s : LabelSelector) : Written ofJson toJson s := by
  refine ⟨?_, object_ne_null _⟩
  refine bind_ok (members_eq_ok.2 rfl) <|
    bind_ok (field?_written s.matchExpressions (by simp) fun _ _ =>
      written_list fun r _ => r.written) <|
    bind_ok (field?_written s.matchLabels (by simp) fun _ _ => written_labels _) ?_
  rfl

theorem stable : Stable ofJson :=
  StableUnder.object
    ((Requirement.stable.list.field? "matchExpressions").bind fun _ =>
      (stable_text.dict.field? "matchLabels").bind fun _ => .pure _) _

end LabelSelector

/-! ### Parts of a specification -/

namespace ObjectReference

theorem written (r : ObjectReference) : Written ofJson toJson r := by
  refine ⟨?_, object_ne_null _⟩
  refine bind_ok (members_eq_ok.2 rfl) <|
    bind_ok (field?_written r.apiVersion (by simp) fun _ _ => written_text _) <|
    bind_ok (fieldD_written r.kind (by simp) (written_text _)) <|
    bind_ok (fieldD_written r.name (by simp) (written_text _)) ?_
  rfl

theorem stable : Stable ofJson :=
  StableUnder.object
    ((stable_text.field? "apiVersion").bind fun _ =>
      (stable_text.fieldD "kind" "").bind fun _ =>
      (stable_text.fieldD "name" "").bind fun _ => .pure _) _

end ObjectReference

namespace MetricIdentifier

theorem written (m : MetricIdentifier) : Written ofJson toJson m := by
  refine ⟨?_, object_ne_null _⟩
  refine bind_ok (members_eq_ok.2 rfl) <|
    bind_ok (fieldD_written m.name (by simp) (written_text _)) <|
    bind_ok (field?_written m.selector (by simp) fun _ _ => LabelSelector.written _) ?_
  rfl

theorem stable : Stable ofJson :=
  StableUnder.object
    ((stable_text.fieldD "name" "").bind fun _ =>
      (LabelSelector.stable.field? "selector").bind fun _ => .pure _) _

end MetricIdentifier

namespace MetricTarget

theorem written (t : MetricTarget) : Written ofJson toJson t := by
  refine ⟨?_, object_ne_null _⟩
  refine bind_ok (members_eq_ok.2 rfl) <|
    bind_ok (field?_written t.averageUtilization (by simp) fun _ _ => written_bounded _) <|
    bind_ok (field?_written t.averageValue (by simp) fun _ _ => written_text _) <|
    bind_ok (fieldD_written t.kind (by simp) (written_text _)) <|
    bind_ok (field?_written t.value (by simp) fun _ _ => written_text _) ?_
  rfl

theorem stable : Stable ofJson :=
  StableUnder.object
    (((stable_bounded _ _).field? "averageUtilization").bind fun _ =>
      (stable_text.field? "averageValue").bind fun _ =>
      (stable_text.fieldD "type" "").bind fun _ =>
      (stable_text.field? "value").bind fun _ => .pure _) _

end MetricTarget

/-! ### Blocks -/

namespace ContainerResourceBlock

theorem written (b : ContainerResourceBlock) : Written ofJson toJson b := by
  refine ⟨?_, object_ne_null _⟩
  refine bind_ok (members_eq_ok.2 rfl) <|
    bind_ok (fieldD_written b.container (by simp) (written_text _)) <|
    bind_ok (fieldD_written b.name (by simp) (written_text _)) <|
    bind_ok (fieldD_written b.target (by simp) (MetricTarget.written _)) ?_
  rfl

theorem stable : Stable ofJson :=
  StableUnder.object
    ((stable_text.fieldD "container" "").bind fun _ =>
      (stable_text.fieldD "name" "").bind fun _ =>
      (MetricTarget.stable.fieldD "target" .empty).bind fun _ => .pure _) _

end ContainerResourceBlock

namespace ExternalBlock

theorem written (b : ExternalBlock) : Written ofJson toJson b := by
  refine ⟨?_, object_ne_null _⟩
  refine bind_ok (members_eq_ok.2 rfl) <|
    bind_ok (fieldD_written b.metric (by simp) (MetricIdentifier.written _)) <|
    bind_ok (fieldD_written b.target (by simp) (MetricTarget.written _)) ?_
  rfl

theorem stable : Stable ofJson :=
  StableUnder.object
    ((MetricIdentifier.stable.fieldD "metric" .empty).bind fun _ =>
      (MetricTarget.stable.fieldD "target" .empty).bind fun _ => .pure _) _

end ExternalBlock

namespace ObjectBlock

theorem written (b : ObjectBlock) : Written ofJson toJson b := by
  refine ⟨?_, object_ne_null _⟩
  refine bind_ok (members_eq_ok.2 rfl) <|
    bind_ok (fieldD_written b.describedObject (by simp) (ObjectReference.written _)) <|
    bind_ok (fieldD_written b.metric (by simp) (MetricIdentifier.written _)) <|
    bind_ok (fieldD_written b.target (by simp) (MetricTarget.written _)) ?_
  rfl

theorem stable : Stable ofJson :=
  StableUnder.object
    ((ObjectReference.stable.fieldD "describedObject" .empty).bind fun _ =>
      (MetricIdentifier.stable.fieldD "metric" .empty).bind fun _ =>
      (MetricTarget.stable.fieldD "target" .empty).bind fun _ => .pure _) _

end ObjectBlock

namespace PodsBlock

theorem written (b : PodsBlock) : Written ofJson toJson b := by
  refine ⟨?_, object_ne_null _⟩
  refine bind_ok (members_eq_ok.2 rfl) <|
    bind_ok (fieldD_written b.metric (by simp) (MetricIdentifier.written _)) <|
    bind_ok (fieldD_written b.target (by simp) (MetricTarget.written _)) ?_
  rfl

theorem stable : Stable ofJson :=
  StableUnder.object
    ((MetricIdentifier.stable.fieldD "metric" .empty).bind fun _ =>
      (MetricTarget.stable.fieldD "target" .empty).bind fun _ => .pure _) _

end PodsBlock

namespace ResourceBlock

theorem written (b : ResourceBlock) : Written ofJson toJson b := by
  refine ⟨?_, object_ne_null _⟩
  refine bind_ok (members_eq_ok.2 rfl) <|
    bind_ok (fieldD_written b.name (by simp) (written_text _)) <|
    bind_ok (fieldD_written b.target (by simp) (MetricTarget.written _)) ?_
  rfl

theorem stable : Stable ofJson :=
  StableUnder.object
    ((stable_text.fieldD "name" "").bind fun _ =>
      (MetricTarget.stable.fieldD "target" .empty).bind fun _ => .pure _) _

end ResourceBlock

/-! ### Specifications -/

namespace MetricSpec

/-- **A specification is read back.** -/
theorem written (spec : MetricSpec) : Written ofJson toJson spec := by
  refine ⟨?_, object_ne_null _⟩
  refine bind_ok (members_eq_ok.2 rfl) <|
    bind_ok (field?_written spec.containerResource (by simp)
      fun _ _ => ContainerResourceBlock.written _) <|
    bind_ok (field?_written spec.external (by simp) fun _ _ => ExternalBlock.written _) <|
    bind_ok (field?_written spec.object (by simp) fun _ _ => ObjectBlock.written _) <|
    bind_ok (field?_written spec.pods (by simp) fun _ _ => PodsBlock.written _) <|
    bind_ok (field?_written spec.resource (by simp) fun _ _ => ResourceBlock.written _) <|
    bind_ok (fieldD_written spec.kind (by simp) (written_text _)) ?_
  rfl

theorem stable : Stable ofJson :=
  StableUnder.object
    ((ContainerResourceBlock.stable.field? "containerResource").bind fun _ =>
      (ExternalBlock.stable.field? "external").bind fun _ =>
      (ObjectBlock.stable.field? "object").bind fun _ =>
      (PodsBlock.stable.field? "pods").bind fun _ =>
      (ResourceBlock.stable.field? "resource").bind fun _ =>
      (stable_text.fieldD "type" "").bind fun _ => .pure _) _

end MetricSpec

end ScaleMetrics
