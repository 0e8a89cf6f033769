import ScaleMetrics.Proofs.Resolution
import ScaleMetrics.Proofs.SavedPods
import ScaleMetrics.Proofs.WrittenSpecs

/-!
# Proofs — Saved workloads

A workload that was read is read back from what is written for it (`Workload.written_of_ofJson`):
as the same controller, or as the same object of another kind.

A controller is read back by the laws of its parts.  An object of another kind keeps all of its
members but the metadata and the type, and is written with the type in front.  Reading it again
finds this type, because the data holds none (`Unstructured.Kept.apart`); and it is not the
type of a controller, since the object would have been read as one.  A version that is not a text
is the exception: it stays among the data, while the kind is dropped.

A workload is read from a document in canonical form and none that nests too deep, so what is
written must be usable too (`Controller.usable_of_ofJson`, `Unstructured.Kept.usable_toJson`).
-/

namespace ScaleMetrics

open Json Schema

/-! ### Depth -/

theorem Requirement.usable_toJson (r : Requirement) : r.toJson.usable 2 = true := by
  refine usable_record ?_
  have hvalues : ∀ values : List String, (ofList Json.string values).usable 1 = true :=
    fun values => usable_ofList fun s _ => usable_string s 0
  simp [hvalues]

theorem LabelSelector.usable_toJson (s : LabelSelector) : s.toJson.usable 4 = true := by
  refine usable_record ?_
  have hexpressions : ∀ rs : List Requirement, (ofList Requirement.toJson rs).usable 3 = true :=
    fun rs => usable_ofList fun r _ => r.usable_toJson
  have hlabels : ∀ labels : Labels, (ofDict Json.string labels).usable 3 = true :=
    fun labels => usable_ofDict fun entry _ => usable_string entry.2 2
  simp [hexpressions, hlabels]

/-- The levels below which the parts of a workload nest. -/
def partDepth : Nat := 40

theorem Metadata.usable_of_ofJson {m : Metadata} {levels : Nat} {document : Json}
    (h : Metadata.ofJson (levels + 1) document = .ok m) (hlevels : partDepth ≤ levels) :
    m.toJson.usable (levels + 1) = true := by
  obtain ⟨members, hother⟩ := Metadata.other_of_ofJson h
  have hdepth : depthFields otherMetadata ≤ partDepth := by decide +kernel
  have hlabels : ∀ labels : Labels, (ofDict Json.string labels).usable levels = true :=
    fun labels => usable_mono (show 1 ≤ levels from (by decide : 1 ≤ partDepth).trans hlevels)
      (usable_ofDict fun entry _ => usable_string entry.2 0)
  refine usable_append (usable_present ?_) <|
    readOptional_usable (writtenUsable_fields _) (hdepth.trans hlevels) hother
  simp [usedMembers, Instant.toWholeJson, hlabels]

theorem Metadata.usable_of_fieldD {m : Metadata} {levels : Nat} {members : List (String × Json)}
    {key : String} (h : fieldD members key (Metadata.ofJson (levels + 1)) empty = .ok m)
    (hlevels : partDepth ≤ levels) : m.toJson.usable (levels + 1) = true := by
  rcases fieldD_eq_ok h with ⟨-, rfl⟩ | ⟨document, -, hread⟩
  · exact usable_of_ofJson (ofJson_nil (levels + 1)) hlevels
  · exact usable_of_ofJson hread hlevels

namespace Workload

/-- The version, if the document has one, is a text. -/
def VersionIsText (document : Json) : Prop :=
  ∀ version, document.get? "apiVersion" = some version → ∃ s, version = .string s

theorem versionIsText_iff {document : Json} :
    VersionIsText document ↔ (document.get? "apiVersion").all (·.string?.isSome) = true := by
  rw [VersionIsText]
  cases document.get? "apiVersion" with
  | none => simp
  | some version => cases version <;> simp [Json.string?]

instance (document : Json) : Decidable (VersionIsText document) :=
  decidable_of_iff _ versionIsText_iff.symm

theorem VersionIsText.canonical {document : Json} (h : VersionIsText document) :
    VersionIsText document.canonical := by
  intro version hversion
  rw [get?_canonical] at hversion
  obtain ⟨original, horiginal, rfl⟩ := Option.map_eq_some_iff.1 hversion
  obtain ⟨s, rfl⟩ := h original horiginal
  exact ⟨s, rfl⟩

theorem declaredKind?_of_type {document : Json} {version kind : String}
    (hversion : document.get? "apiVersion" = some (.string version))
    (hkind : document.get? "kind" = some (.string kind)) :
    declaredKind? document =
      if version = ControllerKind.apiVersion then ControllerKind.ofName? kind else none := by
  rw [declaredKind?, hversion, hkind]
  rfl

end Workload

/-! ### Controllers -/

namespace ControllerSpec

variable {kind : ControllerKind} {s : ControllerSpec} {levels : Nat} {document : Json}

theorem other_apart (kind : ControllerKind) : kind.otherSpec.Apart ["selector"] := by
  cases kind <;> decide +kernel

theorem depth_other (kind : ControllerKind) :
    depthFields kind.otherSpec.needed ≤ partDepth ∧
      depthFields kind.otherSpec.optional ≤ partDepth := by
  cases kind <;> decide +kernel

theorem other_of_ofJson (h : ofJson kind levels document = .ok s) :
    ∃ members, kind.otherSpec.read (levels - 1) members = .ok s.other := by
  rw [ofJson] at h
  obtain ⟨members, -, h⟩ := bind_eq_ok.1 h
  obtain ⟨selector, -, h⟩ := bind_eq_ok.1 h
  obtain ⟨other, hother, rfl⟩ := bind_pure_eq_ok.1 h
  exact ⟨members, hother⟩

theorem written_of_ofJson (h : ofJson kind levels document = .ok s) :
    Written (ofJson kind levels) toJson s := by
  obtain ⟨members, hother⟩ := other_of_ofJson h
  obtain ⟨hused, hagain⟩ :=
    Fields.Apart.beside [("selector", some s.selector.toJson)] (other_apart kind) hother
  refine ⟨?_, object_ne_null _⟩
  refine bind_ok (members_eq_ok.2 rfl) <|
    bind_ok (fieldD_written s.selector (hused _ List.mem_cons_self) s.selector.written) <|
    bind_ok hagain ?_
  rfl

theorem usable_of_ofJson (h : ofJson kind (levels + 1) document = .ok s)
    (hlevels : partDepth ≤ levels) : s.toJson.usable (levels + 1) = true := by
  obtain ⟨members, hother⟩ := other_of_ofJson h
  obtain ⟨hneeded, hoptional⟩ := depth_other kind
  have hselector : s.selector.toJson.usable levels = true :=
    usable_mono ((by decide : 4 ≤ partDepth).trans hlevels) s.selector.usable_toJson
  exact usable_object <| List.forall_mem_cons.2
    ⟨hselector, Fields.usable_of_read (hneeded.trans hlevels) (hoptional.trans hlevels) hother⟩

theorem stable (kind : ControllerKind) (levels : Nat) : Stable (ofJson kind levels) :=
  StableUnder.object
    ((LabelSelector.stable.fieldD "selector" _).bind fun _ =>
      (stable_fields kind.otherSpec (levels - 1)).bind fun _ => .pure _) _

end ControllerSpec

namespace Controller

variable {kind : ControllerKind} {c : Controller} {levels : Nat} {document : Json}

theorem status_again (kind : ControllerKind) : kind.status.ReadAgain := by
  refine readAgain_of_distinct _ ?_
  cases kind <;> decide +kernel

theorem depth_status (kind : ControllerKind) : kind.status.depth ≤ partDepth := by
  cases kind <;> decide +kernel

theorem stable (kind : ControllerKind) (levels : Nat) : Stable (ofJson kind levels) :=
  StableUnder.object
    ((stable_declares "apiVersion" _).bind fun _ => (stable_declares "kind" _).bind fun _ =>
      ((Metadata.stable (levels - 1)).fieldD "metadata" _).bind fun _ =>
      ((ControllerSpec.stable kind (levels - 1)).field? "spec").bind fun _ =>
      ((stable_read kind.status (levels - 1)).field? "status").bind fun _ => .pure _) _

/-- The parts of a controller are read of its fields. -/
theorem parts_of_ofJson (h : ofJson kind levels document = .ok c) :
    c.kind = kind ∧ ∃ members : List (String × Json),
      fieldD members "metadata" (Metadata.ofJson (levels - 1)) .empty = .ok c.metadata ∧
      field? members "spec" (ControllerSpec.ofJson kind (levels - 1)) = .ok c.spec ∧
      field? members "status" (kind.status.read (levels - 1)) = .ok c.status := by
  rw [ofJson] at h
  obtain ⟨members, -, h⟩ := bind_eq_ok.1 h
  obtain ⟨-, -, h⟩ := bind_eq_ok.1 h
  obtain ⟨-, -, h⟩ := bind_eq_ok.1 h
  obtain ⟨metadata, hmetadata, h⟩ := bind_eq_ok.1 h
  obtain ⟨spec, hspec, h⟩ := bind_eq_ok.1 h
  obtain ⟨status, hstatus, rfl⟩ := bind_pure_eq_ok.1 h
  exact ⟨rfl, members, hmetadata, hspec, hstatus⟩

theorem written_of_ofJson (h : ofJson kind levels document = .ok c)
    (hwhole : c.metadata.WholeTimes) : Written (ofJson kind levels) toJson c := by
  obtain ⟨rfl, members, hmetadata, hspec, hstatus⟩ := parts_of_ofJson h
  have hmetadataWritten := Metadata.written_of_fieldD hmetadata hwhole
  have hspecWritten : ∀ s ∈ c.spec,
      Written (ControllerSpec.ofJson c.kind (levels - 1)) ControllerSpec.toJson s :=
    fun s hs => (exists_of_field? hspec hs).elim fun _ => ControllerSpec.written_of_ofJson
  refine ⟨?_, object_ne_null _⟩
  refine bind_ok (members_eq_ok.2 rfl) <|
    bind_ok (declares_eq_ok.2 (by simp)) <| bind_ok (declares_eq_ok.2 (by simp)) <|
    bind_ok (fieldD_written c.metadata (by simp) hmetadataWritten) <|
    bind_ok (field?_written c.spec (by simp) hspecWritten) <|
    bind_ok (field?_again (status_again c.kind) hstatus (by simp)) ?_
  rfl

theorem usable_of_ofJson (h : ofJson kind (levels + 2) document = .ok c)
    (hlevels : partDepth ≤ levels) : c.toJson.usable (levels + 2) = true := by
  obtain ⟨rfl, members, hmetadata, hspec, hstatus⟩ := parts_of_ofJson h
  have hmetadataUsable := Metadata.usable_of_fieldD hmetadata hlevels
  have hspecUsable : ∀ s ∈ c.spec, s.toJson.usable (levels + 1) = true :=
    fun s hs => (exists_of_field? hspec hs).elim fun _ hread =>
      ControllerSpec.usable_of_ofJson hread hlevels
  have hstatusUsable := field?_usable (writtenUsable c.kind.status)
    ((depth_status c.kind).trans (hlevels.trans (Nat.le_succ levels))) hstatus
  refine usable_record ?_
  simpa using ⟨hmetadataUsable, hspecUsable, hstatusUsable⟩

/-- What is written for a controller declares its kind. -/
theorem declaredKind?_toJson (c : Controller) : Workload.declaredKind? c.toJson = some c.kind := by
  have hversion : c.toJson.get? "apiVersion" = some (.string ControllerKind.apiVersion) :=
    lastMember?_of_valuesAt (by simp)
  have hkind : c.toJson.get? "kind" = some (.string c.kind.name) :=
    lastMember?_of_valuesAt (by simp)
  rw [Workload.declaredKind?_of_type hversion hkind, if_pos rfl, ControllerKind.ofName?_name]

end Controller

/-! ### What an object keeps -/

namespace Unstructured

variable {o : Unstructured} {levels : Nat} {document : Json}

/-- What is kept of some members beside the metadata and those that the reading of the type uses
up. -/
def dataOf (used : List String) (members : List (String × Json)) : List (String × Json) :=
  members.filter fun member => member.1 ≠ "metadata" && !used.contains member.1

theorem mem_dataOf {used : List String} {members : List (String × Json)} {member : String × Json} :
    member ∈ dataOf used members ↔
      member ∈ members ∧ member.1 ≠ "metadata" ∧ member.1 ∉ used := by
  simp [dataOf]

theorem sortedMembers_dataOf (used : List String) (members : List (String × Json)) :
    sortedMembers (dataOf used members) = dataOf used (sortedMembers members) :=
  (sortedMembers_filter (fun key => key ≠ "metadata" && !used.contains key) members).symm

/-- The reading uses up the kind, the version if there is one, and a type only as it stands. -/
theorem readType_used {members : List (String × Json)}
    (hversion : Workload.VersionIsText (.object members)) {type : Option (String × String)}
    {used : List String} (h : readType members = (type, used)) :
    "kind" ∈ used ∧ (lastMember? "apiVersion" members = none ∨ "apiVersion" ∈ used) ∧
      ∀ version kind, type = some (version, kind) →
        lastMember? "apiVersion" members = some (.string version) ∧
          lastMember? "kind" members = some (.string kind) := by
  rw [readType] at h
  split at h
  · next version kind hv hk =>
    cases h
    simp [hv, hk]
  · cases h
    simp
  · -- a version that is not a text would stay among the data
    next hother hv _ =>
    obtain ⟨s, rfl⟩ := hversion _ hv
    exact absurd rfl (hother s)
  · next hv =>
    cases h
    simp [hv]

theorem dataOf_apart {used : List String} {members : List (String × Json)} (hkind : "kind" ∈ used)
    (hversion : lastMember? "apiVersion" members = none ∨ "apiVersion" ∈ used) :
    ∀ key ∈ ["apiVersion", "kind", "metadata"], key ∉ (dataOf used members).map (·.1) := by
  intro key hkey hmem
  obtain ⟨member, hmember, rfl⟩ := List.mem_map.1 hmem
  obtain ⟨hin, hmetadata, hused⟩ := mem_dataOf.1 hmember
  simp only [List.mem_cons, List.not_mem_nil, or_false] at hkey
  rcases hkey with hkey | hkey | hkey
  · rw [hkey] at hused
    refine not_mem_keys_of_lastMember? (hversion.resolve_right hused) ?_
    exact hkey ▸ List.mem_map_of_mem hin
  · exact hused (hkey ▸ hkind)
  · exact hmetadata hkey

/-- What reading an object of any kind establishes: its data is in canonical form and holds neither
metadata nor a type, and its type is not that of a controller. -/
structure Kept (levels : Nat) (o : Unstructured) : Prop where
  apart : ∀ key ∈ ["apiVersion", "kind", "metadata"], key ∉ o.data.map (·.1)
  sorted : sortedMembers o.data = o.data
  usable : ∀ member ∈ o.data, member.2.usable levels = true
  metadata : ∃ document, Metadata.ofJson levels document = .ok o.metadata
  type : ∀ version kind, o.type = some (version, kind) →
    version = ControllerKind.apiVersion → ControllerKind.ofName? kind = none

theorem kept_of_ofJson (h : ofJson (levels + 1) document.canonical = .ok o)
    (husable : document.usable (levels + 1) = true) (hversion : Workload.VersionIsText document)
    (hdeclared : Workload.declaredKind? document.canonical = none) : Kept levels o := by
  rw [ofJson] at h
  obtain ⟨members, hmembers, h⟩ := bind_eq_ok.1 h
  replace hmembers := members_eq_ok.1 hmembers
  obtain ⟨original, rfl⟩ := canonical_eq_object.1 ⟨members, hmembers⟩
  obtain rfl : sortedMembers original = members := Json.object.inj hmembers
  cases htype : readType (sortedMembers original) with
  | mk type used =>
      rw [htype] at h
      obtain ⟨metadata, hmetadata, rfl⟩ := bind_pure_eq_ok.1 h
      obtain ⟨hkind, happ, hlast⟩ := readType_used hversion.canonical htype
      exact {
        apart := dataOf_apart hkind happ
        sorted := (sortedMembers_dataOf used _).trans (by rw [sortedMembers_sortedMembers]; rfl)
        usable := fun member hmem =>
          usableMembers_iff.1 (usable_canonical husable) member (mem_dataOf.1 hmem).1
        metadata := by
          rcases exists_of_defaulted hmetadata with rfl | hread
          · exact ⟨_, Metadata.ofJson_nil levels⟩
          · exact hread
        type := by
          rintro version kind rfl rfl
          obtain ⟨hv, hk⟩ : (object original).canonical.get? "apiVersion" = _ ∧
            (object original).canonical.get? "kind" = _ := hlast _ _ rfl
          rw [Workload.declaredKind?_of_type hv hk, if_pos rfl] at hdeclared
          exact hdeclared }

/-! ### What an object writes -/

/-- The members of an object that is written. -/
def members (o : Unstructured) : List (String × Json) :=
  typeMembers o.type ++ [("metadata", o.metadata.toJson)] ++ o.data

theorem Kept.lastMember?_members (h : Kept levels o) :
    lastMember? "apiVersion" o.members = o.type.map (fun type => .string type.1) ∧
      lastMember? "kind" o.members = o.type.map (fun type => .string type.2) ∧
        lastMember? "metadata" o.members = some o.metadata.toJson := by
  have hdata : ∀ key ∈ ["apiVersion", "kind", "metadata"], valuesAt key o.data = [] :=
    fun key hkey => valuesAt_eq_nil (h.apart key hkey)
  simp only [List.forall_mem_cons] at hdata
  rw [← getLast?_valuesAt, ← getLast?_valuesAt, ← getLast?_valuesAt]
  cases htype : o.type <;> simp [members, htype, typeMembers, hdata, valuesAt_cons]

/-- What is used up by the type when the object is read again. -/
def usedAgain (o : Unstructured) : List String :=
  match o.type with
  | some _ => ["apiVersion", "kind"]
  | none => ["kind"]

theorem Kept.readType_sortedMembers (h : Kept levels o) :
    readType (sortedMembers o.members) = (o.type, o.usedAgain) := by
  obtain ⟨hversion, hkind, -⟩ := h.lastMember?_members
  rw [readType, lastMember?_sortedMembers, lastMember?_sortedMembers, hversion, hkind, usedAgain]
  cases o.type <;> rfl

theorem Kept.dataOf_members (h : Kept levels o) : dataOf o.usedAgain o.members = o.data := by
  have hdata : dataOf o.usedAgain o.data = o.data := by
    refine List.filter_eq_self.2 fun member hmem => ?_
    have hkey : ∀ key ∈ ["apiVersion", "kind", "metadata"], member.1 ≠ key :=
      fun key hkey heq => h.apart key hkey (heq ▸ List.mem_map_of_mem hmem)
    simp only [List.forall_mem_cons] at hkey
    cases htype : o.type <;> simp [usedAgain, htype, hkey]
  -- what stands in front of the data is no data: the metadata, and the type if there is one
  have hfront : dataOf o.usedAgain (typeMembers o.type ++ [("metadata", o.metadata.toJson)]) =
      [] := by
    cases htype : o.type <;> simp [dataOf, usedAgain, htype, typeMembers]
  exact List.filter_append .. |>.trans (by rw [← dataOf, ← dataOf, hdata, hfront]; rfl)

theorem Kept.read_again (h : Kept levels o) (hwhole : o.metadata.WholeTimes) :
    ofJson (levels + 1) o.toJson.canonical = .ok o := by
  obtain ⟨-, -, hmetadata⟩ := h.lastMember?_members
  obtain ⟨document, hread⟩ := h.metadata
  have hmetadataAgain : defaulted (sortedMembers o.members) "metadata" (Metadata.ofJson levels)
      Metadata.empty = .ok o.metadata := by
    rw [defaulted, lookup_sortedMembers, hmetadata]
    exact Metadata.stable levels _ _ (Metadata.written_of_ofJson hread hwhole).1
  have hdata : dataOf o.usedAgain (sortedMembers o.members) = o.data := by
    rw [← sortedMembers_dataOf, h.dataOf_members, h.sorted]
  refine bind_ok (a := sortedMembers o.members) (members_eq_ok.2 rfl) ?_
  rw [h.readType_sortedMembers]
  refine bind_ok hmetadataAgain ?_
  exact congrArg (fun data => Except.ok (⟨o.type, o.metadata, data⟩ : Unstructured)) hdata

theorem Kept.usable_toJson (h : Kept (levels + 1) o) (hlevels : partDepth ≤ levels) :
    o.toJson.usable (levels + 2) = true := by
  obtain ⟨document, hread⟩ := h.metadata
  have htype : ∀ member ∈ typeMembers o.type, member.2.usable (levels + 1) = true := by
    cases o.type <;> simp [typeMembers]
  have hmetadata := Metadata.usable_of_ofJson hread hlevels
  exact usable_append (List.forall_mem_append.2 ⟨htype, by simpa using hmetadata⟩) h.usable

theorem Kept.declaredKind?_toJson (h : Kept levels o) : Workload.declaredKind? o.toJson = none := by
  obtain ⟨hversion, hkind, -⟩ := h.lastMember?_members
  change o.toJson.get? "apiVersion" = _ at hversion
  change o.toJson.get? "kind" = _ at hkind
  cases htype : o.type with
  | none =>
      rw [htype] at hversion
      rw [Workload.declaredKind?, hversion]
      rfl
  | some type =>
      rw [htype] at hversion hkind
      rw [Workload.declaredKind?_of_type hversion hkind]
      split_ifs with happ
      · exact h.type type.1 type.2 htype happ
      · rfl

end Unstructured

/-! ### Workloads -/

namespace Workload

variable {w : Workload} {levels : Nat} {document : Json}

/-- The times are whole seconds. -/
def WholeTimes (w : Workload) : Prop :=
  w.metadata.WholeTimes

instance (w : Workload) : Decidable w.WholeTimes :=
  inferInstanceAs (Decidable w.metadata.WholeTimes)

theorem stable (levels : Nat) : Stable (ofJson levels) := by
  intro document w h
  obtain ⟨kept, hkept, h⟩ := bind_eq_ok.1 h
  exact bind_ok (stable_raw levels _ _ hkept) h

/-- **A workload that was read is read back from what is written for it.** -/
theorem written_of_ofJson (h : ofJson (levels + 2) document = .ok w)
    (hversion : VersionIsText document) (hwhole : w.WholeTimes)
    (hlevels : partDepth ≤ levels) : Written (ofJson (levels + 2)) toJson w := by
  obtain ⟨kept, hkept, h⟩ := bind_eq_ok.1 h
  obtain ⟨husable, rfl⟩ := raw_eq_ok.1 hkept
  rw [ofCanonical] at h
  split at h
  · next kind hkind =>
    obtain ⟨c, hread, rfl⟩ := map_eq_ok.1 h
    have hwritten := (Controller.written_of_ofJson hread hwhole).1
    have husableAgain := Controller.usable_of_ofJson hread hlevels
    -- what is written declares the same kind, so it is read by the same reading
    have hagain : ofCanonical (levels + 2) c.toJson.canonical = .ok (.controller c) := by
      rw [ofCanonical, declaredKind?_canonical, Controller.declaredKind?_toJson,
        (Controller.parts_of_ofJson hread).1]
      exact map_eq_ok.2 ⟨c, Controller.stable kind _ _ _ hwritten, rfl⟩
    exact ⟨bind_ok (raw_eq_ok.2 ⟨husableAgain, rfl⟩) hagain, object_ne_null _⟩
  · next hkind =>
    obtain ⟨o, hread, rfl⟩ := map_eq_ok.1 h
    have hparts := Unstructured.kept_of_ofJson hread husable hversion hkind
    -- what is written declares no controller, as the document did not
    have hagain : ofCanonical (levels + 2) o.toJson.canonical = .ok (.unstructured o) := by
      rw [ofCanonical, declaredKind?_canonical, hparts.declaredKind?_toJson]
      exact map_eq_ok.2 ⟨o, hparts.read_again hwhole, rfl⟩
    exact ⟨bind_ok (raw_eq_ok.2 ⟨hparts.usable_toJson hlevels, rfl⟩) hagain, object_ne_null _⟩

end Workload

end ScaleMetrics
