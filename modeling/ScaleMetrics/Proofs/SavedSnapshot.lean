import ScaleMetrics.Proofs.SavedWorkload
import ScaleMetrics.Proofs.WrittenMetric
import ScaleMetrics.Snapshot.Codec

/-!
# Proofs — Saved snapshots

A snapshot that is saved again is the same snapshot (`Snapshot.saved_again`), so every run over it
gives the same result.

Some of this holds of every snapshot: what is recorded of metrics, the specifications, the
namespace and the number of replicas are read back from what is written for them.  A workload and
a pod are read back if they were read of some document, with whole seconds for times
(`Snapshot.parts_of_ofJson`).
-/

namespace ScaleMetrics

open Json

/-! ### Recorded values -/

namespace ObjectSample

theorem written (s : ObjectSample) : Written ofJson toJson s := by
  refine ⟨?_, object_ne_null _⟩
  refine bind_ok (recordFields_record _ (by simp)) <|
    bind_ok (required_written s.object (by simp) (ObjectReference.written _)) <|
    bind_ok (required_written s.metric (by simp) (written_text _)) <|
    bind_ok (required_written s.value (by simp) (written_bounded _)) <|
    bind_ok (required_written s.timestamp (by simp) (Instant.written _)) ?_
  rfl

theorem stable : Stable ofJson :=
  StableUnder.record
    ((ObjectReference.stable.required "object").bind fun _ =>
      (stable_text.required "metric").bind fun _ =>
      ((stable_bounded _ _).required "value").bind fun _ =>
      (stable_instant.required "timestamp").bind fun _ => .pure _) _ _

end ObjectSample

namespace ExternalSample

theorem written (s : ExternalSample) : Written ofJson toJson s := by
  refine ⟨?_, object_ne_null _⟩
  refine bind_ok (recordFields_record _ (by simp)) <|
    bind_ok (required_written s.metric (by simp) (written_text _)) <|
    bind_ok (defaulted_written s.labels (by simp) (written_labels _)) <|
    bind_ok (required_written s.value (by simp) (written_bounded _)) <|
    bind_ok (required_written s.timestamp (by simp) (Instant.written _)) ?_
  rfl

theorem stable : Stable ofJson :=
  StableUnder.record
    ((stable_text.required "metric").bind fun _ =>
      (stable_text.dict.defaulted "labels" _).bind fun _ =>
      ((stable_bounded _ _).required "value").bind fun _ =>
      (stable_instant.required "timestamp").bind fun _ => .pure _) _ _

end ExternalSample

namespace Snapshot

variable {s : Snapshot} {document : Json}

theorem written_scale (replicas : Signed32) :
    Written scaleOfJson (fun replicas => .object [("replicas", ofBounded replicas)]) replicas := by
  refine ⟨?_, object_ne_null _⟩
  have hkeys : ([("replicas", some (ofBounded replicas))].map (·.1)).Nodup := by simp
  exact bind_ok (recordFields_record "scale" hkeys)
    (defaulted_written replicas (by simp) (written_bounded _))

theorem stable_scale : Stable scaleOfJson :=
  StableUnder.record ((stable_bounded _ _).defaulted "replicas" noReplicas) _ _

/-- The document of the workload in that of a snapshot, by name or by position. -/
def workloadAt? (document : Json) : Option Json := do
  let fields ← (recordFields "snapshot" fieldNames document).toOption
  fields.lookup "workload"

/-- The times in objects of the cluster are whole seconds. -/
def WholeTimes (s : Snapshot) : Prop :=
  s.workload.WholeTimes ∧ ∀ pod ∈ s.pods, pod.WholeTimes

instance (s : Snapshot) : Decidable s.WholeTimes :=
  inferInstanceAs (Decidable (_ ∧ _))

/-- The workload and the pods are read of documents, those of them that are there. -/
theorem parts_of_ofJson (h : ofJson document = .ok s) :
    (∃ d, workloadAt? document = some d ∧
      Workload.ofJson (depthLimit - 1) d = .ok s.workload) ∧
      ∀ pod ∈ s.pods, ∃ d, Pod.ofJson (depthLimit - 2) d = .ok pod := by
  rw [ofJson] at h
  obtain ⟨fields, hfields, h⟩ := bind_eq_ok.1 h
  obtain ⟨space, -, h⟩ := bind_eq_ok.1 h
  obtain ⟨workload, hworkload, h⟩ := bind_eq_ok.1 h
  obtain ⟨replicas, -, h⟩ := bind_eq_ok.1 h
  obtain ⟨specs, -, h⟩ := bind_eq_ok.1 h
  obtain ⟨pods, hpods, h⟩ := bind_eq_ok.1 h
  obtain ⟨resourceMetrics, -, h⟩ := bind_eq_ok.1 h
  obtain ⟨podMetrics, -, h⟩ := bind_eq_ok.1 h
  obtain ⟨objectMetrics, -, h⟩ := bind_eq_ok.1 h
  obtain ⟨externalMetrics, -, rfl⟩ := bind_pure_eq_ok.1 h
  constructor
  · obtain ⟨d, hlookup, hread⟩ := required_eq_ok hworkload
    refine ⟨d, ?_, hread⟩
    rw [workloadAt?, hfields]
    exact hlookup
  · rcases exists_of_defaulted hpods with rfl | ⟨d, hlist⟩
    · exact fun pod hpod => absurd hpod List.not_mem_nil
    · exact fun pod hpod => exists_of_list hlist hpod

theorem stable : Stable ofJson :=
  StableUnder.record
    ((stable_text.nullable.defaulted "namespace" _).bind fun _ =>
      ((Workload.stable _).required "workload").bind fun _ =>
      (stable_scale.defaulted "scale" _).bind fun _ =>
      (MetricSpec.stable.list.defaulted "metrics" _).bind fun _ =>
      ((Pod.stable _).list.defaulted "pods" _).bind fun _ =>
      (Series.stable.dict.defaulted "resourceMetrics" _).bind fun _ =>
      (Series.stable.dict.defaulted "podMetrics" _).bind fun _ =>
      (ObjectSample.stable.list.defaulted "objectMetrics" _).bind fun _ =>
      (ExternalSample.stable.list.defaulted "externalMetrics" _).bind fun _ => .pure _) _ _

/-- **A snapshot that was read is read back from what is written for it**, with the members in the
order of the writer or sorted.  Equality is that of all its parts: the variant of the workload, the
name by which it is described, its selector or the error instead of one, and all that a source over
the snapshot answers. -/
theorem saved_again (h : ofJson document = .ok s)
    (hversion : ∀ d, workloadAt? document = some d → Workload.VersionIsText d)
    (hwhole : s.WholeTimes) :
    ofJson s.toJson = .ok s ∧ ofJson s.toJson.canonical = .ok s := by
  -- only the workload and the pods have to have been read
  obtain ⟨⟨d, hd, hread⟩, hpods⟩ := parts_of_ofJson h
  have hworkload : Written (Workload.ofJson (depthLimit - 1)) Workload.toJson s.workload :=
    Workload.written_of_ofJson hread (hversion d hd) hwhole.1 (by decide)
  have hpodsWritten : ∀ pod ∈ s.pods, Written (Pod.ofJson (depthLimit - 2)) Pod.toJson pod :=
    fun pod hpod => (hpods pod hpod).elim fun _ hread =>
      Pod.written_of_ofJson hread (hwhole.2 pod hpod)
  have hseries : ∀ recorded : Dict Series,
      Written (.dict Series.ofJson) (ofDict Series.toJson) recorded :=
    fun recorded => written_dict fun entry _ => entry.2.written
  have hsaved : ofJson s.toJson = .ok s := by
    refine bind_ok (recordFields_record _ (by simp)) <|
      bind_ok (null_written s.space (by simp) fun _ _ => written_text _) <|
      bind_ok (required_written s.workload (by simp) hworkload) <|
      bind_ok (defaulted_written s.replicas (by simp) (written_scale _)) <|
      bind_ok (defaulted_written s.specs (by simp) (written_list fun spec _ => spec.written)) <|
      bind_ok (defaulted_written s.pods (by simp) (written_list hpodsWritten)) <|
      bind_ok (defaulted_written s.resourceMetrics (by simp) (hseries _)) <|
      bind_ok (defaulted_written s.podMetrics (by simp) (hseries _)) <|
      bind_ok (defaulted_written s.objectMetrics (by simp)
        (written_list fun sample _ => sample.written)) <|
      bind_ok (defaulted_written s.externalMetrics (by simp)
        (written_list fun sample _ => sample.written)) ?_
    rfl
  exact ⟨hsaved, stable _ _ hsaved⟩

end Snapshot

end ScaleMetrics
