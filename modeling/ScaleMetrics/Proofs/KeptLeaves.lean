import ScaleMetrics.Proofs.ReadLeaves
import ScaleMetrics.Proofs.SavedSnapshot

/-!
# Proofs — Leaves that are kept

What is written for a snapshot that was read has no leaf that cannot be printed, apart from some
floating-point numbers: nothing in it is broken, and its integers are held in 64 bits
(`Snapshot.soundly`).

Most parts are written from values of known types, and these are sound whatever was read
(`MetricSpec.sound_toJson`).  What is kept as it was read is sound because it was usable and its
integers were held, `Soundly` for each decoder; there is one law for each kind of schema, and one
for each part of an object.
-/

namespace ScaleMetrics

namespace Json

variable {α : Type} {document : Json} {members : List (String × Json)} {key : String}
  {decode : Decoder α} {encode : α → Json}

/-- A leaf that denotes something, and is held in 64 bits if it is an integer. -/
def Sound (leaf : Json) : Prop :=
  leaf.Held ∧ leaf ≠ .broken

@[simp] theorem sound_null : Sound .null :=
  ⟨trivial, nofun⟩

@[simp] theorem sound_bool (b : Bool) : Sound (.bool b) :=
  ⟨trivial, nofun⟩

@[simp] theorem sound_string (s : String) : Sound (.string s) :=
  ⟨trivial, nofun⟩

theorem sound_bounded {low high : Int} (hlow : -0x8000000000000000 ≤ low)
    (hhigh : high < 0x10000000000000000) (n : Bounded low high) : (ofBounded n).All Sound := by
  have hn := n.low_le
  have hn' := n.le_high
  rw [ofBounded, int, all_number, Sound, Held]
  exact ⟨by omega, by simp⟩

@[simp] theorem sound_signed64 (n : Signed64) : (ofBounded n).All Sound :=
  sound_bounded (by decide) (by decide) n

@[simp] theorem sound_signed32 (n : Signed32) : (ofBounded n).All Sound :=
  sound_bounded (by decide) (by decide) n

@[simp] theorem sound_texts (items : List String) : (ofList string items).All Sound :=
  all_ofList fun s _ => (all_string s).2 (sound_string s)

@[simp] theorem sound_labels (labels : Dict String) : (ofDict string labels).All Sound :=
  all_ofDict fun entry _ => (all_string entry.2).2 (sound_string entry.2)

@[simp] theorem sound_wholeTime (a : Instant) : a.toWholeJson.All Sound :=
  (all_string _).2 (sound_string _)

@[simp] theorem sound_time (a : Instant) : a.toJson.All Sound :=
  (all_string _).2 (sound_string _)

/-! ### What is read -/

mutual

theorem unbroken_of_usable : ∀ {document : Json} {levels : Nat}, document.usable levels = true →
    document.All (· ≠ .broken)
  | .array _, _ + 1, h => all_array.2 (unbroken_items h)
  | .object _, _ + 1, h => all_object.2 (unbroken_members h)
  | .array _, 0, h => by cases h
  | .object _, 0, h => by cases h
  | .null, _, _ => all_null.2 nofun
  | .bool b, _, _ => (all_bool b).2 nofun
  | .number n, _, _ => (all_number n).2 nofun
  | .string s, _, _ => (all_string s).2 nofun

theorem unbroken_items : ∀ {items : List Json} {levels : Nat}, usableItems levels items = true →
    ∀ item ∈ items, item.All (· ≠ .broken)
  | [], _, _ => List.forall_mem_nil _
  | _ :: _, _, h => by
      rw [usableItems, Bool.and_eq_true] at h
      exact List.forall_mem_cons.2 ⟨unbroken_of_usable h.1, unbroken_items h.2⟩

theorem unbroken_members : ∀ {members : List (String × Json)} {levels : Nat},
    usableMembers levels members = true → ∀ member ∈ members, member.2.All (· ≠ .broken)
  | [], _, _ => List.forall_mem_nil _
  | _ :: _, _, h => by
      rw [usableMembers, Bool.and_eq_true] at h
      exact List.forall_mem_cons.2 ⟨unbroken_of_usable h.1, unbroken_members h.2⟩

end

theorem sound_of_usable {levels : Nat} (hheld : document.All Held)
    (husable : document.usable levels = true) : document.All Sound :=
  .imp₂ (fun _ => And.intro) hheld (unbroken_of_usable husable)

/-- What is read of a document with held integers is written soundly. -/
def Soundly (decode : Decoder α) (encode : α → Json) : Prop :=
  ∀ document a, document.All Held → decode document = .ok a → (encode a).All Sound

theorem soundly_of_forall (h : ∀ a, (encode a).All Sound) : Soundly decode encode :=
  fun _ a _ _ => h a

theorem soundly_raw (levels : Nat) : Soundly (.raw levels) id := by
  intro document kept hheld hkept
  obtain ⟨husable, rfl⟩ := raw_eq_ok.1 hkept
  exact (sound_of_usable hheld husable).canonical

theorem Soundly.list (h : Soundly decode encode) : Soundly (.list decode) (ofList encode) := by
  intro document items hheld hitems
  cases document with
  | array originals =>
      refine all_ofList fun a ha => ?_
      obtain ⟨original, hmem, hread⟩ := exists_of_mem_right (mapM_eq_ok.1 hitems) ha
      exact h _ _ (all_array.1 hheld original hmem) hread
  | _ => cases hitems

theorem Soundly.dict (h : Soundly decode encode) : Soundly (.dict decode) (ofDict encode) := by
  intro document d hheld hd
  cases document with
  | object members =>
      refine all_ofDict fun entry hentry => ?_
      obtain ⟨original, hlast, hread⟩ :=
        ((dict_eq_ok.1 hd).2 _ _).1 (Dict.get?_eq_some_iff.2 hentry)
      exact h _ _ (hheld.of_lastMember? hlast) hread
  | _ => cases hd

theorem Soundly.field? (h : Soundly decode encode) (hheld : (object members).All Held)
    {value : Option α} (hvalue : field? members key decode = .ok value) :
    ∀ a ∈ value, (encode a).All Sound := by
  rintro a ⟨rfl⟩
  rcases field?_eq_ok hvalue with ⟨-, hnone⟩ | ⟨document, b, hlast, hread, hsome⟩
  · cases hnone
  · cases hsome
    exact h _ _ (hheld.of_lastMember? hlast) hread

theorem Soundly.fieldD (h : Soundly decode encode) (hheld : (object members).All Held)
    {a default : α} (hdefault : (encode default).All Sound)
    (ha : fieldD members key decode default = .ok a) : (encode a).All Sound := by
  rcases fieldD_eq_ok ha with ⟨-, rfl⟩ | ⟨document, hlast, hread⟩
  · exact hdefault
  · exact h _ _ (hheld.of_lastMember? hlast) hread

theorem Soundly.required (h : Soundly decode encode) (hheld : (object members).All Held) {a : α}
    (ha : required members key decode = .ok a) : (encode a).All Sound := by
  obtain ⟨document, hlookup, hread⟩ := required_eq_ok ha
  exact h _ _ (hheld.of_lookup hlookup) hread

theorem Soundly.defaulted (h : Soundly decode encode) (hheld : (object members).All Held)
    {a default : α} (hdefault : (encode default).All Sound)
    (ha : defaulted members key decode default = .ok a) : (encode a).All Sound := by
  rw [Json.defaulted] at ha
  split at ha
  · next document hlookup => exact h _ _ (hheld.of_lookup hlookup) ha
  · cases ha
    exact hdefault

end Json

open Json

/-! ### Schemas -/

namespace Schema

variable {levels : Nat} {members : List (String × Json)}

mutual

theorem sound_blank : ∀ schema : Schema, schema.blank.All Sound
  | .text => (all_string "").2 (sound_string "")
  | .time => sound_wholeTime _
  | .flag => (all_bool false).2 (sound_bool false)
  | .int32 => sound_signed32 ⟨0, by decide, by decide⟩
  | .int64 => sound_signed64 ⟨0, by decide, by decide⟩
  | .intOrText => sound_signed32 ⟨0, by decide, by decide⟩
  | .anything => all_null.2 sound_null
  | .list _ => all_array.2 (List.forall_mem_nil _)
  | .dict _ => all_object.2 (List.forall_mem_nil _)
  | .object needed _ => all_object.2 (sound_blanks needed)
  | .resource _ _ needed _ => all_append (by simp [typeMembers]) (sound_blanks needed)

theorem sound_blanks : ∀ fields : List (String × Schema),
    ∀ member ∈ blanks fields, member.2.All Sound
  | [] => List.forall_mem_nil _
  | (_, schema) :: rest => List.forall_mem_cons.2 ⟨sound_blank schema, sound_blanks rest⟩

end

/-- What the schema reads of a document with held integers is sound. -/
def ReadSound (schema : Schema) : Prop :=
  ∀ levels, Soundly (schema.read levels) id

theorem soundly_through {α : Type} {decode : Decoder α} {encode : α → Json}
    (h : Soundly decode encode) : Soundly (through decode encode) id := by
  intro document out hheld hout
  obtain ⟨a, ha, rfl⟩ := map_eq_ok.1 hout
  exact h _ _ hheld ha

theorem readNeeded_sound (hheld : (Json.object members).All Held) :
    ∀ {fields : List (String × Schema)} {out : List (String × Json)},
    (∀ field ∈ fields, field.2.ReadSound) → readNeeded fields levels members = .ok out →
      ∀ member ∈ out, member.2.All Sound
  | [], out, _, h => by
      cases h
      exact List.forall_mem_nil _
  | (key, schema) :: rest, out, hfields, h => by
      rw [readNeeded] at h
      obtain ⟨value, hvalue, h⟩ := bind_eq_ok.1 h
      obtain ⟨values, hvalues, rfl⟩ := bind_pure_eq_ok.1 h
      obtain ⟨hschema, hrest⟩ := List.forall_mem_cons.1 hfields
      exact List.forall_mem_cons.2 ⟨(hschema levels).fieldD hheld (sound_blank schema) hvalue,
        readNeeded_sound hheld hrest hvalues⟩

theorem readOptional_sound (hheld : (Json.object members).All Held) :
    ∀ {fields : List (String × Schema)} {out : List (String × Json)},
    (∀ field ∈ fields, field.2.ReadSound) → readOptional fields levels members = .ok out →
      ∀ member ∈ out, member.2.All Sound
  | [], out, _, h => by
      cases h
      exact List.forall_mem_nil _
  | (key, schema) :: rest, out, hfields, h => by
      obtain ⟨value, values, hvalue, hvalues, rfl⟩ := readOptional_cons_eq_ok.1 h
      obtain ⟨hschema, hrest⟩ := List.forall_mem_cons.1 hfields
      have hsound := (hschema levels).field? hheld hvalue
      have htail := readOptional_sound hheld hrest hvalues
      cases value with
      | none => exact htail
      | some document => exact List.forall_mem_cons.2 ⟨hsound document rfl, htail⟩

mutual

/-- **What a schema keeps is sound.** -/
theorem readSound : ∀ schema : Schema, schema.ReadSound
  | .text => fun _ => soundly_through <| soundly_of_forall (by simp)
  | .flag => fun _ => soundly_through <| soundly_of_forall (by simp)
  | .int32 => fun _ => soundly_through <| soundly_of_forall sound_signed32
  | .int64 => fun _ => soundly_through <| soundly_of_forall sound_signed64
  | .time => fun _ => soundly_through <| soundly_of_forall sound_wholeTime
  | .intOrText => fun _ document out _ h => by
      rcases readIntOrText_eq_ok h with ⟨s, rfl⟩ | ⟨n, rfl⟩
      · exact (all_string s).2 (sound_string s)
      · exact sound_signed32 n
  | .anything => fun levels => soundly_raw levels
  | .list item => fun levels => soundly_through fun _ items hheld hitems => by
      have hlist := (readSound item (levels - 1)).list _ _ hheld hitems
      rwa [ofList, List.map_id] at hlist
  | .dict value => fun levels => soundly_through (readSound value (levels - 1)).dict
  | .object needed optional => fun levels document out hheld hout => by
      rw [read] at hout
      obtain ⟨members, hmembers, h⟩ := bind_eq_ok.1 hout
      obtain rfl := members_eq_ok.1 hmembers
      obtain ⟨found, hfound, h⟩ := bind_eq_ok.1 h
      obtain ⟨values, hvalues, rfl⟩ := bind_pure_eq_ok.1 h
      exact all_append (readNeeded_sound hheld (readSound_fields needed) hfound)
        (readOptional_sound hheld (readSound_fields optional) hvalues)
  | .resource version kind needed optional => fun levels document out hheld hout => by
      rw [read] at hout
      obtain ⟨members, hmembers, h⟩ := bind_eq_ok.1 hout
      obtain rfl := members_eq_ok.1 hmembers
      obtain ⟨-, -, h⟩ := bind_eq_ok.1 h
      obtain ⟨-, -, h⟩ := bind_eq_ok.1 h
      obtain ⟨found, hfound, h⟩ := bind_eq_ok.1 h
      obtain ⟨values, hvalues, rfl⟩ := bind_pure_eq_ok.1 h
      have htype : ∀ member ∈ typeMembers version kind, member.2.All Sound := by
        simp [typeMembers]
      exact all_append
        (List.forall_mem_append.2
          ⟨htype, readNeeded_sound hheld (readSound_fields needed) hfound⟩)
        (readOptional_sound hheld (readSound_fields optional) hvalues)

theorem readSound_fields : ∀ fields : List (String × Schema),
    ∀ field ∈ fields, field.2.ReadSound
  | [] => List.forall_mem_nil _
  | (_, schema) :: rest => List.forall_mem_cons.2 ⟨readSound schema, readSound_fields rest⟩

end

/-- The optional fields of some members. -/
theorem sound_of_readOptional {fields : List (String × Schema)} {other : List (String × Json)}
    (hheld : (Json.object members).All Held)
    (h : readOptional fields levels members = .ok other) : ∀ member ∈ other, member.2.All Sound :=
  readOptional_sound hheld (readSound_fields fields) h

theorem Fields.sound_of_read {fields : Fields} {other : List (String × Json)}
    (hheld : (Json.object members).All Held) (h : fields.read levels members = .ok other) :
    ∀ member ∈ other, member.2.All Sound := by
  obtain ⟨found, values, hfound, hvalues, rfl⟩ := read_eq_ok.1 h
  exact List.forall_mem_append.2
    ⟨readNeeded_sound hheld (readSound_fields _) hfound, sound_of_readOptional hheld hvalues⟩

end Schema

/-! ### Specifications and samples -/

theorem Requirement.sound_toJson (r : Requirement) : r.toJson.All Sound :=
  all_record (by simp)

theorem LabelSelector.sound_toJson (s : LabelSelector) : s.toJson.All Sound := by
  have hexpressions (rs : List Requirement) : (ofList Requirement.toJson rs).All Sound :=
    all_ofList fun r _ => r.sound_toJson
  exact all_record (by simp [hexpressions])

theorem ObjectReference.sound_toJson (r : ObjectReference) : r.toJson.All Sound :=
  all_record (by simp)

theorem MetricIdentifier.sound_toJson (m : MetricIdentifier) : m.toJson.All Sound :=
  all_record (by simp [LabelSelector.sound_toJson])

theorem MetricTarget.sound_toJson (t : MetricTarget) : t.toJson.All Sound :=
  all_record (by simp)

theorem MetricSpec.sound_toJson (spec : MetricSpec) : spec.toJson.All Sound := by
  have hcontainer (b : ContainerResourceBlock) : b.toJson.All Sound :=
    all_record (by simp [MetricTarget.sound_toJson])
  have hexternal (b : ExternalBlock) : b.toJson.All Sound :=
    all_record (by simp [MetricIdentifier.sound_toJson, MetricTarget.sound_toJson])
  have hobject (b : ObjectBlock) : b.toJson.All Sound :=
    all_record (by simp [ObjectReference.sound_toJson, MetricIdentifier.sound_toJson,
      MetricTarget.sound_toJson])
  have hpods (b : PodsBlock) : b.toJson.All Sound :=
    all_record (by simp [MetricIdentifier.sound_toJson, MetricTarget.sound_toJson])
  have hresource (b : ResourceBlock) : b.toJson.All Sound :=
    all_record (by simp [MetricTarget.sound_toJson])
  exact all_record (by simp [hcontainer, hexternal, hobject, hpods, hresource])

theorem Series.sound_toJson (series : Series) : series.toJson.All Sound := by
  have hsample (s : Sample) : s.toJson.All Sound := all_record (by simp)
  exact all_ofDict fun entry _ => hsample entry.2

theorem ObjectSample.sound_toJson (s : ObjectSample) : s.toJson.All Sound :=
  all_record (by simp [ObjectReference.sound_toJson])

theorem ExternalSample.sound_toJson (s : ExternalSample) : s.toJson.All Sound :=
  all_record (by simp)

/-! ### Pods -/

theorem Metadata.soundly (levels : Nat) : Soundly (Metadata.ofJson levels) Metadata.toJson := by
  intro document m hheld hread
  rw [ofJson] at hread
  obtain ⟨members, hmembers, h⟩ := bind_eq_ok.1 hread
  obtain rfl := members_eq_ok.1 hmembers
  obtain ⟨_, -, h⟩ := bind_eq_ok.1 h
  obtain ⟨_, -, h⟩ := bind_eq_ok.1 h
  obtain ⟨_, -, h⟩ := bind_eq_ok.1 h
  obtain ⟨_, -, h⟩ := bind_eq_ok.1 h
  obtain ⟨_, -, h⟩ := bind_eq_ok.1 h
  obtain ⟨other, hother, rfl⟩ := bind_pure_eq_ok.1 h
  exact all_append (all_present (by simp [usedMembers]))
    (Schema.sound_of_readOptional hheld hother)

theorem Metadata.sound_empty : empty.toJson.All Sound :=
  all_append (all_present (by simp [usedMembers, empty])) (List.forall_mem_nil _)

theorem Resources.soundly (levels : Nat) : Soundly (Resources.ofJson levels) Resources.toJson := by
  intro document r hheld hread
  rw [ofJson] at hread
  obtain ⟨members, hmembers, h⟩ := bind_eq_ok.1 hread
  obtain rfl := members_eq_ok.1 hmembers
  obtain ⟨limits, -, h⟩ := bind_eq_ok.1 h
  obtain ⟨requests, -, h⟩ := bind_eq_ok.1 h
  obtain ⟨other, hother, rfl⟩ := bind_pure_eq_ok.1 h
  exact all_append (all_present (by simp)) (Schema.sound_of_readOptional hheld hother)

theorem Container.soundly (levels : Nat) : Soundly (Container.ofJson levels) Container.toJson := by
  intro document c hheld hread
  rw [ofJson] at hread
  obtain ⟨members, hmembers, h⟩ := bind_eq_ok.1 hread
  obtain rfl := members_eq_ok.1 hmembers
  obtain ⟨name, -, h⟩ := bind_eq_ok.1 h
  obtain ⟨resources, hresources, h⟩ := bind_eq_ok.1 h
  obtain ⟨other, hother, rfl⟩ := bind_pure_eq_ok.1 h
  have hsound := (Resources.soundly (levels - 1)).field? hheld hresources
  exact all_append (all_present (by simpa using hsound))
    (Schema.sound_of_readOptional hheld hother)

theorem PodSpec.soundly (levels : Nat) : Soundly (PodSpec.ofJson levels) PodSpec.toJson := by
  intro document s hheld hread
  rw [ofJson] at hread
  obtain ⟨members, hmembers, h⟩ := bind_eq_ok.1 hread
  obtain rfl := members_eq_ok.1 hmembers
  obtain ⟨containers, hcontainers, h⟩ := bind_eq_ok.1 h
  obtain ⟨other, hother, rfl⟩ := bind_pure_eq_ok.1 h
  have hsound : (ofList Container.toJson containers).All Sound :=
    (Container.soundly (levels - 2)).list.fieldD hheld all_ofList_nil hcontainers
  exact all_object.2
    (List.forall_mem_cons.2 ⟨hsound, Schema.sound_of_readOptional hheld hother⟩)

theorem PodCondition.soundly (levels : Nat) :
    Soundly (PodCondition.ofJson levels) PodCondition.toJson := by
  intro document c hheld hread
  rw [ofJson] at hread
  obtain ⟨members, hmembers, h⟩ := bind_eq_ok.1 hread
  obtain rfl := members_eq_ok.1 hmembers
  obtain ⟨time, -, h⟩ := bind_eq_ok.1 h
  obtain ⟨status, -, h⟩ := bind_eq_ok.1 h
  obtain ⟨kind, -, h⟩ := bind_eq_ok.1 h
  obtain ⟨other, hother, rfl⟩ := bind_pure_eq_ok.1 h
  exact all_append (all_present (by simp)) (Schema.sound_of_readOptional hheld hother)

theorem PodStatus.soundly (levels : Nat) : Soundly (PodStatus.ofJson levels) PodStatus.toJson := by
  intro document s hheld hread
  rw [ofJson] at hread
  obtain ⟨members, hmembers, h⟩ := bind_eq_ok.1 hread
  obtain rfl := members_eq_ok.1 hmembers
  obtain ⟨conditions, hconditions, h⟩ := bind_eq_ok.1 h
  obtain ⟨phase, -, h⟩ := bind_eq_ok.1 h
  obtain ⟨start, -, h⟩ := bind_eq_ok.1 h
  obtain ⟨other, hother, rfl⟩ := bind_pure_eq_ok.1 h
  have hsound := (PodCondition.soundly (levels - 2)).list.field? hheld hconditions
  exact all_append (all_present (by simpa using hsound))
    (Schema.sound_of_readOptional hheld hother)

theorem Pod.soundly (levels : Nat) : Soundly (Pod.ofJson levels) Pod.toJson := by
  intro document pod hheld hread
  rw [ofJson] at hread
  obtain ⟨members, hmembers, h⟩ := bind_eq_ok.1 hread
  obtain rfl := members_eq_ok.1 hmembers
  obtain ⟨-, -, h⟩ := bind_eq_ok.1 h
  obtain ⟨-, -, h⟩ := bind_eq_ok.1 h
  obtain ⟨metadata, hmetadata, h⟩ := bind_eq_ok.1 h
  obtain ⟨spec, hspec, h⟩ := bind_eq_ok.1 h
  obtain ⟨status, hstatus, rfl⟩ := bind_pure_eq_ok.1 h
  have hmetadata := (Metadata.soundly (levels - 1)).fieldD hheld Metadata.sound_empty hmetadata
  have hspec := (PodSpec.soundly (levels - 1)).field? hheld hspec
  have hstatus := (PodStatus.soundly (levels - 1)).field? hheld hstatus
  exact all_record (by simpa using ⟨hmetadata, hspec, hstatus⟩)

/-! ### Workloads -/

theorem ControllerSpec.soundly (kind : ControllerKind) (levels : Nat) :
    Soundly (ControllerSpec.ofJson kind levels) ControllerSpec.toJson := by
  intro document s hheld hread
  rw [ofJson] at hread
  obtain ⟨members, hmembers, h⟩ := bind_eq_ok.1 hread
  obtain rfl := members_eq_ok.1 hmembers
  obtain ⟨selector, -, h⟩ := bind_eq_ok.1 h
  obtain ⟨other, hother, rfl⟩ := bind_pure_eq_ok.1 h
  exact all_object.2
    (List.forall_mem_cons.2 ⟨selector.sound_toJson, Schema.Fields.sound_of_read hheld hother⟩)

theorem Controller.soundly (kind : ControllerKind) (levels : Nat) :
    Soundly (Controller.ofJson kind levels) Controller.toJson := by
  intro document c hheld hread
  rw [ofJson] at hread
  obtain ⟨members, hmembers, h⟩ := bind_eq_ok.1 hread
  obtain rfl := members_eq_ok.1 hmembers
  obtain ⟨-, -, h⟩ := bind_eq_ok.1 h
  obtain ⟨-, -, h⟩ := bind_eq_ok.1 h
  obtain ⟨metadata, hmetadata, h⟩ := bind_eq_ok.1 h
  obtain ⟨spec, hspec, h⟩ := bind_eq_ok.1 h
  obtain ⟨status, hstatus, rfl⟩ := bind_pure_eq_ok.1 h
  have hmetadata := (Metadata.soundly (levels - 1)).fieldD hheld Metadata.sound_empty hmetadata
  have hspec := (ControllerSpec.soundly kind (levels - 1)).field? hheld hspec
  have hstatus := (Schema.readSound kind.status (levels - 1)).field? hheld hstatus
  exact all_record (by simpa using ⟨hmetadata, hspec, hstatus⟩)

/-- What an object of any kind keeps is usable, so nothing in it is broken. -/
theorem Unstructured.sound_toJson {levels depth : Nat} {document : Json} {o : Unstructured}
    (hheld : document.All Held) (husable : document.usable depth = true)
    (hread : ofJson levels document = .ok o) : o.toJson.All Sound := by
  have hsound : document.All Sound := sound_of_usable hheld husable
  rw [ofJson] at hread
  obtain ⟨members, hmembers, h⟩ := bind_eq_ok.1 hread
  obtain rfl := members_eq_ok.1 hmembers
  cases htype : readType members with
  | mk type used =>
      rw [htype] at h
      obtain ⟨metadata, hmetadata, rfl⟩ := bind_pure_eq_ok.1 h
      have hmetadata :=
        (Metadata.soundly (levels - 1)).defaulted hheld Metadata.sound_empty hmetadata
      have htypeMembers : ∀ member ∈ typeMembers type, member.2.All Sound := by
        rcases type with _ | ⟨version, kind⟩ <;> simp [typeMembers]
      exact all_append
        (List.forall_mem_append.2 ⟨htypeMembers, List.forall_mem_singleton.2 hmetadata⟩)
        fun member hmem => all_object.1 hsound member (List.mem_filter.1 hmem).1

theorem Workload.soundly (levels : Nat) : Soundly (Workload.ofJson levels) Workload.toJson := by
  intro document w hheld h
  obtain ⟨kept, hkept, h⟩ := bind_eq_ok.1 h
  obtain ⟨husable, rfl⟩ := raw_eq_ok.1 hkept
  rw [ofCanonical] at h
  split at h
  · next kind _ =>
    obtain ⟨c, hread, rfl⟩ := map_eq_ok.1 h
    exact Controller.soundly kind levels _ _ hheld.canonical hread
  · obtain ⟨o, hread, rfl⟩ := map_eq_ok.1 h
    exact Unstructured.sound_toJson hheld.canonical (usable_canonical husable) hread

/-! ### Snapshots -/

/-- **A snapshot that was read is written soundly.** -/
theorem Snapshot.soundly : Soundly Snapshot.ofJson Snapshot.toJson := by
  intro document s hheld h
  rw [ofJson] at h
  obtain ⟨fields, hfields, h⟩ := bind_eq_ok.1 h
  have hfieldsHeld := hheld.recordFields hfields
  obtain ⟨space, -, h⟩ := bind_eq_ok.1 h
  obtain ⟨workload, hworkload, h⟩ := bind_eq_ok.1 h
  obtain ⟨replicas, -, h⟩ := bind_eq_ok.1 h
  obtain ⟨specs, -, h⟩ := bind_eq_ok.1 h
  obtain ⟨pods, hpods, h⟩ := bind_eq_ok.1 h
  obtain ⟨resourceMetrics, -, h⟩ := bind_eq_ok.1 h
  obtain ⟨podMetrics, -, h⟩ := bind_eq_ok.1 h
  obtain ⟨objectMetrics, -, h⟩ := bind_eq_ok.1 h
  obtain ⟨externalMetrics, -, rfl⟩ := bind_pure_eq_ok.1 h
  have hworkload := (Workload.soundly _).required hfieldsHeld hworkload
  have hpods : (ofList Pod.toJson pods).All Sound :=
    (Pod.soundly _).list.defaulted hfieldsHeld all_ofList_nil hpods
  have hspecs : (ofList MetricSpec.toJson specs).All Sound :=
    all_ofList fun spec _ => spec.sound_toJson
  have hseries (recorded : Dict Series) : (ofDict Series.toJson recorded).All Sound :=
    all_ofDict fun entry _ => Series.sound_toJson entry.2
  have hobjects : (ofList ObjectSample.toJson objectMetrics).All Sound :=
    all_ofList fun sample _ => sample.sound_toJson
  have hexternals : (ofList ExternalSample.toJson externalMetrics).All Sound :=
    all_ofList fun sample _ => sample.sound_toJson
  have hspace : ((space.map string).getD .null).All Sound := by
    cases space <;> simp
  refine all_record ?_
  simp [hworkload, hpods, hspecs, hseries, hobjects, hexternals, hspace]

end ScaleMetrics
