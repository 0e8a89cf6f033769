import ScaleMetrics.Pod
import ScaleMetrics.Proofs.KeptDepth

/-!
# Proofs — Saved pods

A pod that was read is read back from what is written for it (`Pod.written_of_ofJson`), if the
times on which something depends are whole seconds (`WholeTimes`), since times are written to the
second.  All other times lost their fraction when they were read.

The law asks that the pod was read, because its other parts are then in the form in which a schema
writes them.  For each part there is the same law, and that it is read the same in canonical form
(`stable`).
-/

namespace ScaleMetrics

open Json Schema

/-- The instant has no fraction of a second. -/
def Instant.IsWhole (a : Instant) : Prop :=
  a.nano % nanosPerSecond = 0

instance (a : Instant) : Decidable a.IsWhole :=
  inferInstanceAs (Decidable (_ = _))

theorem Instant.written_whole {a : Instant} (h : a.IsWhole) :
    Written Instant.ofJson Instant.toWholeJson a := by
  refine ⟨?_, nofun⟩
  rw [a.ofJson_toWholeJson, whole_of_mod h]

namespace Metadata

variable {m : Metadata} {levels : Nat} {document : Json}

/-- The names of the fields on which something depends. -/
def usedNames : List String :=
  ["creationTimestamp", "deletionTimestamp", "labels", "name", "namespace"]

theorem other_apart : (Fields.ofOptional otherMetadata).Apart usedNames := by
  decide +kernel

/-- The times are whole seconds. -/
def WholeTimes (m : Metadata) : Prop :=
  (∀ a ∈ m.creationTimestamp, a.IsWhole) ∧ ∀ a ∈ m.deletionTimestamp, a.IsWhole

instance (m : Metadata) : Decidable m.WholeTimes :=
  inferInstanceAs (Decidable (_ ∧ _))

theorem other_of_ofJson (h : ofJson levels document = .ok m) :
    ∃ members, readOptional otherMetadata (levels - 1) members = .ok m.other := by
  rw [ofJson] at h
  obtain ⟨members, -, h⟩ := bind_eq_ok.1 h
  obtain ⟨_, -, h⟩ := bind_eq_ok.1 h
  obtain ⟨_, -, h⟩ := bind_eq_ok.1 h
  obtain ⟨_, -, h⟩ := bind_eq_ok.1 h
  obtain ⟨_, -, h⟩ := bind_eq_ok.1 h
  obtain ⟨_, -, h⟩ := bind_eq_ok.1 h
  obtain ⟨other, hother, rfl⟩ := bind_pure_eq_ok.1 h
  exact ⟨members, hother⟩

theorem written_of_ofJson (h : ofJson levels document = .ok m) (hwhole : m.WholeTimes) :
    Written (ofJson levels) toJson m := by
  obtain ⟨members, hother⟩ := other_of_ofJson h
  obtain ⟨hused, hagain⟩ := Fields.Apart.optional_beside m.usedMembers other_apart hother
  simp only [usedMembers, List.forall_mem_cons] at hused
  obtain ⟨hcreation, hdeletion, hlabels, hname, hspace, -⟩ := hused
  refine ⟨?_, object_ne_null _⟩
  refine bind_ok (members_eq_ok.2 rfl) <|
    bind_ok (field?_written m.creationTimestamp hcreation fun a ha =>
      Instant.written_whole (hwhole.1 a ha)) <|
    bind_ok (field?_written m.deletionTimestamp hdeletion fun a ha =>
      Instant.written_whole (hwhole.2 a ha)) <|
    bind_ok (field?_written m.labels hlabels fun _ _ => written_labels _) <|
    bind_ok (field?_written m.name hname fun _ _ => written_text _) <|
    bind_ok (field?_written m.space hspace fun _ _ => written_text _) <|
    bind_ok hagain ?_
  rfl

/-- Metadata that says nothing is read of an object without members. -/
theorem ofJson_nil (levels : Nat) : ofJson levels (.object []) = .ok empty := by
  refine bind_ok (members_eq_ok.2 rfl) <| bind_ok (field?_of_nil rfl) <|
    bind_ok (field?_of_nil rfl) <| bind_ok (field?_of_nil rfl) <| bind_ok (field?_of_nil rfl) <|
    bind_ok (field?_of_nil rfl) <| bind_ok (readOptional_nil ..) ?_
  rfl

/-- Metadata may be missing, and is then written as if it said nothing. -/
theorem written_of_fieldD {members : List (String × Json)} {key : String}
    (h : fieldD members key (ofJson levels) empty = .ok m) (hwhole : m.WholeTimes) :
    Written (ofJson levels) toJson m := by
  rcases fieldD_eq_ok h with ⟨-, rfl⟩ | ⟨document, -, hread⟩
  · exact written_of_ofJson (ofJson_nil levels) hwhole
  · exact written_of_ofJson hread hwhole

theorem stable (levels : Nat) : Stable (ofJson levels) :=
  StableUnder.object
    ((stable_instant.field? "creationTimestamp").bind fun _ =>
      (stable_instant.field? "deletionTimestamp").bind fun _ =>
      (stable_text.dict.field? "labels").bind fun _ =>
      (stable_text.field? "name").bind fun _ =>
      (stable_text.field? "namespace").bind fun _ =>
      (stable_readOptional otherMetadata (levels - 1)).bind fun _ => .pure _) _

end Metadata

/-! ### Containers -/

namespace Resources

variable {r : Resources} {levels : Nat} {document : Json}

theorem other_apart : (Fields.ofOptional otherResources).Apart ["limits", "requests"] := by
  decide +kernel

theorem written_of_ofJson (h : ofJson levels document = .ok r) :
    Written (ofJson levels) toJson r := by
  rw [ofJson] at h
  obtain ⟨members, -, h⟩ := bind_eq_ok.1 h
  obtain ⟨limits, -, h⟩ := bind_eq_ok.1 h
  obtain ⟨requests, -, h⟩ := bind_eq_ok.1 h
  obtain ⟨other, hother, rfl⟩ := bind_pure_eq_ok.1 h
  obtain ⟨hused, hagain⟩ := Fields.Apart.optional_beside
    [("limits", limits.map (ofDict .string)), ("requests", requests.map (ofDict .string))]
    other_apart hother
  simp only [List.forall_mem_cons] at hused
  obtain ⟨hlimits, hrequests, -⟩ := hused
  refine ⟨?_, object_ne_null _⟩
  refine bind_ok (members_eq_ok.2 rfl) <|
    bind_ok (field?_written limits hlimits fun _ _ => written_labels _) <|
    bind_ok (field?_written requests hrequests fun _ _ => written_labels _) <|
    bind_ok hagain ?_
  rfl

theorem stable (levels : Nat) : Stable (ofJson levels) :=
  StableUnder.object
    ((stable_text.dict.field? "limits").bind fun _ =>
      (stable_text.dict.field? "requests").bind fun _ =>
      (stable_readOptional otherResources (levels - 1)).bind fun _ => .pure _) _

end Resources

namespace Container

variable {c : Container} {levels : Nat} {document : Json}

theorem other_apart : (Fields.ofOptional otherContainer).Apart ["name", "resources"] := by
  decide +kernel

theorem written_of_ofJson (h : ofJson levels document = .ok c) :
    Written (ofJson levels) toJson c := by
  rw [ofJson] at h
  obtain ⟨members, -, h⟩ := bind_eq_ok.1 h
  obtain ⟨name, -, h⟩ := bind_eq_ok.1 h
  obtain ⟨resources, hresources, h⟩ := bind_eq_ok.1 h
  obtain ⟨other, hother, rfl⟩ := bind_pure_eq_ok.1 h
  obtain ⟨hused, hagain⟩ := Fields.Apart.optional_beside
    [("name", some (.string name)), ("resources", resources.map Resources.toJson)]
    other_apart hother
  simp only [List.forall_mem_cons] at hused
  obtain ⟨hname, hvalue, -⟩ := hused
  have hwritten : ∀ r ∈ resources, Written (Resources.ofJson (levels - 1)) Resources.toJson r :=
    fun r hr => (exists_of_field? hresources hr).elim fun _ => Resources.written_of_ofJson
  refine ⟨?_, object_ne_null _⟩
  refine bind_ok (members_eq_ok.2 rfl) <|
    bind_ok (fieldD_written name hname (written_text _)) <|
    bind_ok (field?_written resources hvalue hwritten) <|
    bind_ok hagain ?_
  rfl

theorem stable (levels : Nat) : Stable (ofJson levels) :=
  StableUnder.object
    ((stable_text.fieldD "name" "").bind fun _ =>
      ((Resources.stable (levels - 1)).field? "resources").bind fun _ =>
      (stable_readOptional otherContainer (levels - 1)).bind fun _ => .pure _) _

end Container

namespace PodSpec

variable {s : PodSpec} {levels : Nat} {document : Json}

theorem other_apart : (Fields.ofOptional otherPodSpec).Apart ["containers"] := by
  decide +kernel

theorem written_of_ofJson (h : ofJson levels document = .ok s) :
    Written (ofJson levels) toJson s := by
  rw [ofJson] at h
  obtain ⟨members, -, h⟩ := bind_eq_ok.1 h
  obtain ⟨containers, hcontainers, h⟩ := bind_eq_ok.1 h
  obtain ⟨other, hother, rfl⟩ := bind_pure_eq_ok.1 h
  obtain ⟨hused, hagain⟩ := Fields.Apart.optional_beside
    [("containers", some (ofList Container.toJson containers))] other_apart hother
  have hread : ∀ c ∈ containers, ∃ d, Container.ofJson (levels - 2) d = .ok c := by
    rcases fieldD_eq_ok hcontainers with ⟨-, rfl⟩ | ⟨d, -, hlist⟩
    · exact nofun
    · exact fun c hc => exists_of_list hlist hc
  have hwritten : ∀ c ∈ containers, Written (Container.ofJson (levels - 2)) Container.toJson c :=
    fun c hc => (hread c hc).elim fun _ => Container.written_of_ofJson
  refine ⟨?_, object_ne_null _⟩
  refine bind_ok (members_eq_ok.2 rfl) <|
    bind_ok (fieldD_written containers (hused _ List.mem_cons_self) (written_list hwritten)) <|
    bind_ok hagain ?_
  rfl

theorem stable (levels : Nat) : Stable (ofJson levels) :=
  StableUnder.object
    (((Container.stable (levels - 2)).list.fieldD "containers" []).bind fun _ =>
      (stable_readOptional otherPodSpec (levels - 1)).bind fun _ => .pure _) _

end PodSpec

/-! ### Status -/

namespace PodCondition

variable {c : PodCondition} {levels : Nat} {document : Json}

theorem other_apart :
    (Fields.ofOptional otherPodCondition).Apart ["lastTransitionTime", "status", "type"] := by
  decide +kernel

/-- The time is a whole second. -/
def WholeTimes (c : PodCondition) : Prop :=
  ∀ a ∈ c.lastTransitionTime, a.IsWhole

instance (c : PodCondition) : Decidable c.WholeTimes :=
  inferInstanceAs (Decidable (∀ a ∈ c.lastTransitionTime, a.IsWhole))

theorem written_of_ofJson (h : ofJson levels document = .ok c) (hwhole : c.WholeTimes) :
    Written (ofJson levels) toJson c := by
  rw [ofJson] at h
  obtain ⟨members, -, h⟩ := bind_eq_ok.1 h
  obtain ⟨time, -, h⟩ := bind_eq_ok.1 h
  obtain ⟨status, -, h⟩ := bind_eq_ok.1 h
  obtain ⟨kind, -, h⟩ := bind_eq_ok.1 h
  obtain ⟨other, hother, rfl⟩ := bind_pure_eq_ok.1 h
  obtain ⟨hused, hagain⟩ := Fields.Apart.optional_beside
    [("lastTransitionTime", time.map Instant.toWholeJson), ("status", some (.string status)),
      ("type", some (.string kind))] other_apart hother
  simp only [List.forall_mem_cons] at hused
  obtain ⟨htime, hstatus, hkind, -⟩ := hused
  refine ⟨?_, object_ne_null _⟩
  refine bind_ok (members_eq_ok.2 rfl) <|
    bind_ok (field?_written time htime fun a ha => Instant.written_whole (hwhole a ha)) <|
    bind_ok (fieldD_written status hstatus (written_text _)) <|
    bind_ok (fieldD_written kind hkind (written_text _)) <|
    bind_ok hagain ?_
  rfl

theorem stable (levels : Nat) : Stable (ofJson levels) :=
  StableUnder.object
    ((stable_instant.field? "lastTransitionTime").bind fun _ =>
      (stable_text.fieldD "status" "").bind fun _ =>
      (stable_text.fieldD "type" "").bind fun _ =>
      (stable_readOptional otherPodCondition (levels - 1)).bind fun _ => .pure _) _

end PodCondition

namespace PodStatus

variable {s : PodStatus} {levels : Nat} {document : Json}

theorem other_apart :
    (Fields.ofOptional otherPodStatus).Apart ["conditions", "phase", "startTime"] := by
  decide +kernel

/-- The times are whole seconds. -/
def WholeTimes (s : PodStatus) : Prop :=
  (∀ conditions ∈ s.conditions, ∀ c ∈ conditions, c.WholeTimes) ∧ ∀ a ∈ s.startTime, a.IsWhole

instance (s : PodStatus) : Decidable s.WholeTimes :=
  inferInstanceAs (Decidable (_ ∧ _))

theorem written_of_ofJson (h : ofJson levels document = .ok s) (hwhole : s.WholeTimes) :
    Written (ofJson levels) toJson s := by
  rw [ofJson] at h
  obtain ⟨members, -, h⟩ := bind_eq_ok.1 h
  obtain ⟨conditions, hconditions, h⟩ := bind_eq_ok.1 h
  obtain ⟨phase, -, h⟩ := bind_eq_ok.1 h
  obtain ⟨start, -, h⟩ := bind_eq_ok.1 h
  obtain ⟨other, hother, rfl⟩ := bind_pure_eq_ok.1 h
  obtain ⟨hused, hagain⟩ := Fields.Apart.optional_beside
    [("conditions", conditions.map (ofList PodCondition.toJson)), ("phase", phase.map .string),
      ("startTime", start.map Instant.toWholeJson)] other_apart hother
  simp only [List.forall_mem_cons] at hused
  obtain ⟨hvalue, hphase, hstart, -⟩ := hused
  have hwritten : ∀ items ∈ conditions,
      Written (.list (PodCondition.ofJson (levels - 2))) (ofList PodCondition.toJson) items := by
    intro items hitems
    obtain ⟨d, hlist⟩ := exists_of_field? hconditions hitems
    exact written_list fun c hc => (exists_of_list hlist hc).elim fun _ hread =>
      PodCondition.written_of_ofJson hread (hwhole.1 items hitems c hc)
  refine ⟨?_, object_ne_null _⟩
  refine bind_ok (members_eq_ok.2 rfl) <|
    bind_ok (field?_written conditions hvalue hwritten) <|
    bind_ok (field?_written phase hphase fun _ _ => written_text _) <|
    bind_ok (field?_written start hstart fun a ha => Instant.written_whole (hwhole.2 a ha)) <|
    bind_ok hagain ?_
  rfl

theorem stable (levels : Nat) : Stable (ofJson levels) :=
  StableUnder.object
    (((PodCondition.stable (levels - 2)).list.field? "conditions").bind fun _ =>
      (stable_text.field? "phase").bind fun _ =>
      (stable_instant.field? "startTime").bind fun _ =>
      (stable_readOptional otherPodStatus (levels - 1)).bind fun _ => .pure _) _

end PodStatus

/-! ### Pods -/

namespace Pod

variable {pod : Pod} {levels : Nat} {document : Json}

/-- The times are whole seconds. -/
def WholeTimes (pod : Pod) : Prop :=
  pod.metadata.WholeTimes ∧ ∀ s ∈ pod.status, s.WholeTimes

instance (pod : Pod) : Decidable pod.WholeTimes :=
  inferInstanceAs (Decidable (_ ∧ _))

/-- **A pod that was read is read back from what is written for it.** -/
theorem written_of_ofJson (h : ofJson levels document = .ok pod) (hwhole : pod.WholeTimes) :
    Written (ofJson levels) toJson pod := by
  rw [ofJson] at h
  obtain ⟨members, -, h⟩ := bind_eq_ok.1 h
  obtain ⟨-, -, h⟩ := bind_eq_ok.1 h
  obtain ⟨-, -, h⟩ := bind_eq_ok.1 h
  obtain ⟨metadata, hmetadata, h⟩ := bind_eq_ok.1 h
  obtain ⟨spec, hspec, h⟩ := bind_eq_ok.1 h
  obtain ⟨status, hstatus, rfl⟩ := bind_pure_eq_ok.1 h
  have hmetadataWritten := Metadata.written_of_fieldD hmetadata hwhole.1
  have hspecWritten : ∀ s ∈ spec, Written (PodSpec.ofJson (levels - 1)) PodSpec.toJson s :=
    fun s hs => (exists_of_field? hspec hs).elim fun _ => PodSpec.written_of_ofJson
  have hstatusWritten : ∀ s ∈ status, Written (PodStatus.ofJson (levels - 1)) PodStatus.toJson s :=
    fun s hs => (exists_of_field? hstatus hs).elim fun _ hread =>
      PodStatus.written_of_ofJson hread (hwhole.2 s hs)
  refine ⟨?_, object_ne_null _⟩
  refine bind_ok (members_eq_ok.2 rfl) <|
    bind_ok (declares_eq_ok.2 (by simp)) <| bind_ok (declares_eq_ok.2 (by simp)) <|
    bind_ok (fieldD_written metadata (by simp) hmetadataWritten) <|
    bind_ok (field?_written spec (by simp) hspecWritten) <|
    bind_ok (field?_written status (by simp) hstatusWritten) ?_
  rfl

theorem stable (levels : Nat) : Stable (ofJson levels) :=
  StableUnder.object
    ((stable_declares "apiVersion" "v1").bind fun _ => (stable_declares "kind" "Pod").bind fun _ =>
      ((Metadata.stable (levels - 1)).fieldD "metadata" _).bind fun _ =>
      ((PodSpec.stable (levels - 1)).field? "spec").bind fun _ =>
      ((PodStatus.stable (levels - 1)).field? "status").bind fun _ => .pure _) _

end Pod

end ScaleMetrics
