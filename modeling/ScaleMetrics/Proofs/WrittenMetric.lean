import ScaleMetrics.Metric.Codec
import ScaleMetrics.Proofs.Requests
import ScaleMetrics.Proofs.Timestamps
import ScaleMetrics.Proofs.WrittenSpecs

/-!
# Proofs — Written metrics

A gathered metric is read back from what is written for it (`Metric.ofJson_toJson`), whether the
members stand in the order of the writer or sorted: without requests, current values or a count of
ready pods, which are then left out; without a set of ignored pods, which is then null; and with any
kind of payload, which stands among the other members under the name of the kind.  Counts must be
held in words (`Payload.CountsHeld`).

Each part has two laws: it is read back (`written`), and read the same in canonical form (`stable`).
Of the whole only the first holds in general, since the first member that is named for a kind is
the payload, and sorting can change which one this is.  A metric that is written has one such member
(`Holds`), sorted or not (`Holds.sorted`).
-/

namespace ScaleMetrics

open Json

/-! ### Times and counts -/

theorem Instant.written (a : Instant) : Written Instant.ofJson toJson a := by
  refine ⟨?_, nofun⟩
  rw [toJson, ofJson, read?_text]

theorem written_count {n : Int} (h : Milli.Held n) : Written .count .int n := by
  refine ⟨map_eq_ok.2 ⟨⟨n, h.1, h.2⟩, ?_, rfl⟩, nofun⟩
  exact signed64_ofBounded ⟨n, h.1, h.2⟩

/-- The number is held in 64 bits without sign. -/
def InWord (n : Nat) : Prop :=
  n ≤ 0xffffffffffffffff

theorem written_word64 {n : Nat} (h : InWord n) : Written .word64 (fun n => .int n) n := by
  refine ⟨map_eq_ok.2 ⟨⟨n, Int.natCast_nonneg n, Int.ofNat_le.2 h⟩, ?_, rfl⟩, nofun⟩
  exact bounded_ofBounded ⟨(n : Int), Int.natCast_nonneg n, Int.ofNat_le.2 h⟩

theorem stable_count : Stable Decoder.count :=
  (stable_bounded _ _).map _

theorem stable_word64 : Stable Decoder.word64 :=
  (stable_bounded _ _).map _

/-! ### Samples -/

namespace Sample

theorem written (s : Sample) : Written ofJson toJson s := by
  refine ⟨?_, object_ne_null _⟩
  refine bind_ok (recordFields_record _ (by simp)) <|
    bind_ok (required_written s.timestamp (by simp) (Instant.written _)) <|
    bind_ok (required_written s.value (by simp) (written_bounded _)) ?_
  rfl

theorem stable : Stable ofJson :=
  StableUnder.record
    ((stable_instant.required "timestamp").bind fun _ =>
      ((stable_bounded _ _).required "value").bind fun _ => .pure _) _ _

theorem usable_toJson (s : Sample) : s.toJson.usable 1 = true := by
  refine usable_record ?_
  simp [Instant.toJson, ofBounded]

end Sample

namespace Series

theorem written (series : Series) : Written ofJson toJson series :=
  written_dict fun entry _ => entry.2.written

theorem stable : Stable ofJson :=
  Sample.stable.dict

theorem usable_toJson (series : Series) : series.toJson.usable 2 = true :=
  usable_ofDict fun entry _ => entry.2.usable_toJson

end Series

/-! ### Metrics of one value -/

namespace CurrentValue

theorem written (v : CurrentValue) : Written ofJson toJson v := by
  refine ⟨?_, object_ne_null _⟩
  refine bind_ok (recordFields_record _ (by simp)) <|
    bind_ok (nullable_written v.value (by simp) fun _ _ => written_bounded _) <|
    bind_ok (nullable_written v.averageValue (by simp) fun _ _ => written_bounded _) <|
    bind_ok (nullable_written v.averageUtilization (by simp) fun _ _ => written_bounded _) ?_
  rfl

theorem stable : Stable ofJson :=
  StableUnder.record
    (((stable_bounded _ _).nullable.defaulted "value" _).bind fun _ =>
      ((stable_bounded _ _).nullable.defaulted "average_value" _).bind fun _ =>
      ((stable_bounded _ _).nullable.defaulted "average_utilization" _).bind fun _ => .pure _) _ _

theorem usable_toJson (v : CurrentValue) : v.toJson.usable 1 = true := by
  refine usable_record ?_
  simp [ofBounded]

end CurrentValue

namespace ValueMetric

/-- The counts are held in words. -/
def CountsHeld (m : ValueMetric) : Prop :=
  ∀ count ∈ m.readyPodCount, Milli.Held count

theorem written {m : ValueMetric} (h : m.CountsHeld) : Written ofJson toJson m := by
  refine ⟨?_, object_ne_null _⟩
  refine bind_ok (recordFields_record _ (by simp)) <|
    bind_ok (required_written m.current (by simp) (CurrentValue.written _)) <|
    bind_ok (nullable_written m.readyPodCount (by simp) fun count hcount =>
      written_count (h count hcount)) <|
    bind_ok (required_written m.timestamp (by simp) (Instant.written _)) ?_
  rfl

theorem stable : Stable ofJson :=
  StableUnder.record
    ((CurrentValue.stable.required "current").bind fun _ =>
      (stable_count.nullable.defaulted "ready_pod_count" _).bind fun _ =>
      (stable_instant.required "timestamp").bind fun _ => .pure _) _ _

theorem usable_toJson (m : ValueMetric) : m.toJson.usable 3 = true := by
  refine usable_record ?_
  have hcurrent : m.current.toJson.usable 2 = true :=
    usable_mono (by decide) m.current.usable_toJson
  simp [Instant.toJson, hcurrent]

end ValueMetric

/-! ### Metrics of pods -/

namespace PodsMetric

/-- The counts are held in words. -/
def CountsHeld (m : PodsMetric) : Prop :=
  Milli.Held m.readyPodCount ∧ InWord m.totalPods

theorem written {m : PodsMetric} (h : m.CountsHeld) : Written ofJson toJson m := by
  refine ⟨?_, object_ne_null _⟩
  refine bind_ok (recordFields_record _ (by simp)) <|
    bind_ok (required_written m.samples (by simp) (Series.written _)) <|
    bind_ok (required_written m.readyPodCount (by simp) (written_count h.1)) <|
    bind_ok (null_written m.ignored (by simp) fun _ _ => written_names _) <|
    bind_ok (required_written m.missing (by simp) (written_names _)) <|
    bind_ok (required_written m.totalPods (by simp) (written_word64 h.2)) <|
    bind_ok (required_written m.timestamp (by simp) (Instant.written _)) ?_
  rfl

theorem stable : Stable ofJson :=
  StableUnder.record
    ((Series.stable.required "pod_metrics_info").bind fun _ =>
      (stable_count.required "ready_pod_count").bind fun _ =>
      (stable_names.nullable.defaulted "ignored_pods" _).bind fun _ =>
      (stable_names.required "missing_pods").bind fun _ =>
      (stable_word64.required "total_pods").bind fun _ =>
      (stable_instant.required "timestamp").bind fun _ => .pure _) _ _

theorem usable_toJson (m : PodsMetric) : m.toJson.usable 3 = true := by
  refine usable_record ?_
  have hnames : ∀ names : Names, (ofNames names).usable 2 = true :=
    fun names => usable_ofNames names 1
  cases m.ignored <;> simp [Instant.toJson, m.samples.usable_toJson, hnames]

end PodsMetric

namespace ResourceMetric

/-- The counts are held in words. -/
def CountsHeld (m : ResourceMetric) : Prop :=
  Milli.Held m.readyPodCount ∧ InWord m.totalPods

/-- The requests are missing when there are none, and read as none when they are missing. -/
theorem requests_written (m : ResourceMetric) {fields : List (String × Json)}
    (h : fields.lookup "requests" =
      if m.requests.isEmpty then none else some (ofDict ofBounded m.requests)) :
    defaulted fields "requests" (.dict .signed64) Dict.empty = .ok m.requests := by
  rw [defaulted, h]
  split_ifs with hempty
  · have hrequests : m.requests = Dict.empty := Dict.ext (List.isEmpty_iff.1 hempty)
    rw [hrequests]
  · exact (written_dict fun entry _ => written_bounded entry.2).1

theorem written {m : ResourceMetric} (h : m.CountsHeld) : Written ofJson toJson m := by
  refine ⟨?_, object_ne_null _⟩
  refine bind_ok (recordFields_record _ (by simp)) <|
    bind_ok (required_written m.samples (by simp) (Series.written _)) <|
    bind_ok (m.requests_written (by simp)) <|
    bind_ok (required_written m.readyPodCount (by simp) (written_count h.1)) <|
    bind_ok (required_written m.ignored (by simp) (written_names _)) <|
    bind_ok (required_written m.missing (by simp) (written_names _)) <|
    bind_ok (required_written m.totalPods (by simp) (written_word64 h.2)) <|
    bind_ok (required_written m.timestamp (by simp) (Instant.written _)) ?_
  rfl

theorem stable : Stable ofJson :=
  StableUnder.record
    ((Series.stable.required "pod_metrics_info").bind fun _ =>
      ((stable_bounded _ _).dict.defaulted "requests" _).bind fun _ =>
      (stable_count.required "ready_pod_count").bind fun _ =>
      (stable_names.required "ignored_pods").bind fun _ =>
      (stable_names.required "missing_pods").bind fun _ =>
      (stable_word64.required "total_pods").bind fun _ =>
      (stable_instant.required "timestamp").bind fun _ => .pure _) _ _

theorem usable_toJson (m : ResourceMetric) : m.toJson.usable 3 = true := by
  refine usable_record ?_
  have hrequests : (ofDict ofBounded m.requests).usable 2 = true :=
    usable_ofDict fun entry _ => usable_int _ 1
  have hnames : ∀ names : Names, (ofNames names).usable 2 = true :=
    fun names => usable_ofNames names 1
  simp [Instant.toJson, m.samples.usable_toJson, hnames, hrequests]

end ResourceMetric

/-! ### Payloads -/

namespace Payload

/-- The counts are held in words. -/
def CountsHeld : Payload → Prop
  | .object metric => metric.CountsHeld
  | .pods metric => metric.CountsHeld
  | .resource metric => metric.CountsHeld
  | .external metric => metric.CountsHeld

/-- The reading under the name of a kind takes what is written of that kind. -/
theorem decoder?_written {p : Payload} (h : p.CountsHeld) :
    ∃ decode, decoder? p.kind.name = some decode ∧ decode p.toJson = .ok p ∧
      decode p.toJson.canonical = .ok p := by
  cases p with
  | object metric => exact ⟨_, rfl, (ValueMetric.written h).read_map ValueMetric.stable _⟩
  | pods metric => exact ⟨_, rfl, (PodsMetric.written h).read_map PodsMetric.stable _⟩
  | resource metric => exact ⟨_, rfl, (ResourceMetric.written h).read_map ResourceMetric.stable _⟩
  | external metric => exact ⟨_, rfl, (ValueMetric.written h).read_map ValueMetric.stable _⟩

theorem usable_toJson (p : Payload) : p.toJson.usable 3 = true := by
  cases p with
  | object metric => exact metric.usable_toJson
  | pods metric => exact metric.usable_toJson
  | resource metric => exact metric.usable_toJson
  | external metric => exact metric.usable_toJson

end Payload

/-! ### Metrics -/

namespace Metric

/-- The members give the replicas and the specification one value each, and hold one member
beside them. -/
structure Holds (members : List (String × Json)) (replicas spec : Json)
    (payload : String × Json) : Prop where
  replicas : valuesAt "current_replicas" members = [replicas]
  spec : valuesAt "spec" members = [spec]
  others : members.filter (fun member => !fieldNames.contains member.1) = [payload]

theorem Holds.sorted {members : List (String × Json)} {replicas spec payload : Json} {key : String}
    (h : Holds members replicas spec (key, payload)) :
    Holds (sortedMembers members) replicas.canonical spec.canonical (key, payload.canonical) where
  replicas := valuesAt_sortedMembers_of_single h.replicas
  spec := valuesAt_sortedMembers_of_single h.spec
  others := by
    rw [sortedMembers_filter (fun key => !fieldNames.contains key), h.others]
    rfl

theorem Holds.ofJson_eq_ok {m : Metric} {members : List (String × Json)}
    {replicas spec payload : Json} {decode : Json.Decoder Payload}
    (h : Holds members replicas spec (m.payload.kind.name, payload))
    (hreplicas : Decoder.signed32 replicas = .ok m.currentReplicas)
    (hspec : MetricSpec.ofJson spec = .ok m.spec)
    (hdecode : Payload.decoder? m.payload.kind.name = some decode)
    (hpayload : decode payload = .ok m.payload)
    (husable : payload.usable (depthLimit - 1) = true) :
    ofJson (.object members) = .ok m := by
  have hvalues : ∀ field ∈ [("current_replicas", some replicas), ("spec", some spec)],
      valuesAt field.1 members = field.2.toList := by
    simp [h.replicas, h.spec]
  -- the payload is the only candidate, so it is the first that is named for a kind
  have hcandidates : candidates members = .ok [(m.payload.kind.name, payload)] := by
    rw [candidates, h.others]
    simp [husable]
  have hchosen : Payload.ofMembers [(m.payload.kind.name, payload)] = .ok m.payload := by
    rw [Payload.ofMembers, hdecode]
    exact hpayload
  exact bind_ok (members_eq_ok.2 rfl) <|
    bind_ok (recordFields_of_valuesAt "metric" hvalues) <|
    bind_ok (a := m.currentReplicas) hreplicas <| bind_ok (a := m.spec) hspec <|
    bind_ok hcandidates <| bind_ok hchosen rfl

/-- The members of a metric that is written. -/
def members (m : Metric) : List (String × Json) :=
  [("current_replicas", ofBounded m.currentReplicas), ("spec", m.spec.toJson),
    (m.payload.kind.name, m.payload.toJson)]

theorem holds_members (m : Metric) :
    Holds m.members (ofBounded m.currentReplicas) m.spec.toJson
      (m.payload.kind.name, m.payload.toJson) := by
  have hkind : m.payload.kind.name ≠ "current_replicas" ∧ m.payload.kind.name ≠ "spec" := by
    cases m.payload.kind <;> decide
  constructor
  · simp [members, valuesAt, hkind]
  · simp [members, valuesAt, hkind]
  · simp [members, fieldNames, hkind]

/-- The payload stands under the name of its kind, and nothing under those of the others. -/
theorem get?_toJson (m : Metric) (kind : SourceKind) :
    (m.toJson.get? kind.name).isSome = true ↔ kind = m.payload.kind := by
  change (lastMember? kind.name m.members).isSome = true ↔ _
  cases kind <;> cases hkind : m.payload.kind <;>
    simp [members, hkind, lastMember?, SourceKind.name]

/-- **A metric is read back from what is written for it.**  The order of the members does not
matter, and the only payload that is written stands under the name of its kind. -/
theorem ofJson_toJson (m : Metric) (h : m.payload.CountsHeld) :
    ofJson m.toJson = .ok m ∧ ofJson m.toJson.canonical = .ok m ∧
      ∀ kind : SourceKind,
        (m.toJson.canonical.get? kind.name).isSome = true ↔ kind = m.payload.kind := by
  have hmembers := m.holds_members
  obtain ⟨decode, hdecode, hread, hcanonical⟩ := Payload.decoder?_written h
  have husable : m.payload.toJson.usable (depthLimit - 1) = true :=
    usable_mono (by decide) m.payload.usable_toJson
  have hspec := m.spec.written.1
  refine ⟨?_, ?_, fun kind => ?_⟩
  · exact hmembers.ofJson_eq_ok (signed32_ofBounded _) hspec hdecode hread husable
  · exact hmembers.sorted.ofJson_eq_ok (signed32_ofBounded _) (MetricSpec.stable _ _ hspec) hdecode
      hcanonical (usable_canonical husable)
  · rw [get?_canonical, Option.isSome_map, get?_toJson]

/-- The metric of a target without pods: everything that can be left out is. -/
def ofNoPods : Metric where
  currentReplicas := ⟨3, by decide, by decide⟩
  spec := ⟨none, none, none, none, some ⟨"cpu", .empty⟩, "Resource"⟩
  payload := .resource ⟨Dict.empty, Dict.empty, 0, Names.empty, Names.empty, 0, Instant.epoch⟩

theorem ofJson_toJson_ofNoPods :
    ofJson ofNoPods.toJson = .ok ofNoPods ∧ ofJson ofNoPods.toJson.canonical = .ok ofNoPods ∧
      ∀ kind : SourceKind,
        (ofNoPods.toJson.canonical.get? kind.name).isSome = true ↔ kind = .resource :=
  ofJson_toJson ofNoPods ⟨Milli.held_val Milli.zero, Nat.zero_le _⟩

end Metric

end ScaleMetrics
