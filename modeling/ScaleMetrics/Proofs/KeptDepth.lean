import ScaleMetrics.Proofs.KeptParts

/-!
# Proofs — Kept depth

What a schema writes nests no deeper than the schema does (`Schema.writtenUsable`), however deep the
document was; what the schema keeps as it is nests no deeper than it may in a document, since it
was read.  So what is written for an object is not refused for its depth.

A schema reads the same in canonical form (`Schema.stable_read`).
-/

namespace ScaleMetrics.Schema

open Json

variable {schema : Schema} {levels : Nat} {document out : Json} {members : List (String × Json)}

/-! ### The canonical form -/

theorem stable_intOrText : Stable readIntOrText := by
  intro document a h
  cases document with
  | string s => exact h
  | number n => exact h
  | _ => cases h

mutual

/-- What a schema reads it reads the same in canonical form. -/
theorem stable_read : ∀ (schema : Schema) (levels : Nat), Stable (schema.read levels)
  | .text, _ => stable_text.map _
  | .flag, _ => stable_flag.map _
  | .int32, _ => (stable_bounded _ _).map _
  | .int64, _ => (stable_bounded _ _).map _
  | .time, _ => stable_instant.map _
  | .intOrText, _ => stable_intOrText
  | .anything, levels => stable_raw levels
  | .list item, levels => (stable_read item (levels - 1)).list.map _
  | .dict value, levels => (stable_read value (levels - 1)).dict.map _
  | .object needed optional, levels =>
      StableUnder.object ((stable_readNeeded needed (levels - 1)).bind fun _ =>
        (stable_readOptional optional (levels - 1)).bind fun _ => .pure _) _
  | .resource version kind needed optional, levels =>
      StableUnder.object ((stable_declares "apiVersion" version).bind fun _ =>
        (stable_declares "kind" kind).bind fun _ =>
        (stable_readNeeded needed (levels - 1)).bind fun _ =>
        (stable_readOptional optional (levels - 1)).bind fun _ => .pure _) _

theorem stable_readNeeded : ∀ (fields : List (String × Schema)) (levels : Nat),
    StableUnder sortedMembers (readNeeded fields levels)
  | [], _ => .pure _
  | (key, schema) :: rest, levels =>
      ((stable_read schema levels).fieldD key _).bind fun _ =>
        (stable_readNeeded rest levels).bind fun _ => .pure _

theorem stable_readOptional : ∀ (fields : List (String × Schema)) (levels : Nat),
    StableUnder sortedMembers (readOptional fields levels)
  | [], _ => .pure _
  | (key, schema) :: rest, levels =>
      ((stable_read schema levels).field? key).bind fun value =>
        (stable_readOptional rest levels).bind fun _ => by
          cases value <;> exact .pure _

end

theorem stable_fields (fields : Fields) (levels : Nat) :
    StableUnder sortedMembers (fields.read levels) :=
  (stable_readNeeded fields.needed levels).bind fun _ =>
    (stable_readOptional fields.optional levels).bind fun _ => .pure _

/-! ### Depth -/

mutual

/-- How deep the containers of what is written nest, apart from what is kept as it is. -/
def depth : Schema → Nat
  | .list item => item.depth + 1
  | .dict value => value.depth + 1
  | .object needed optional => max (depthFields needed) (depthFields optional) + 1
  | .resource _ _ needed optional => max (depthFields needed) (depthFields optional) + 1
  | _ => 0

/-- How deep the values of some fields nest. -/
def depthFields : List (String × Schema) → Nat
  | [] => 0
  | (_, schema) :: rest => max schema.depth (depthFields rest)

end

/-- What is written nests no deeper than the levels, if the schema does not. -/
def WrittenUsable (schema : Schema) : Prop :=
  ∀ {levels document out}, schema.depth ≤ levels → schema.read levels document = .ok out →
    out.usable levels = true

theorem through_usable {α : Type} {decode : Decoder α} {encode : α → Json}
    (h : ∀ a, (encode a).usable levels = true) (hout : through decode encode document = .ok out) :
    out.usable levels = true := by
  obtain ⟨a, -, rfl⟩ := map_eq_ok.1 hout
  exact h a

theorem list_usable {item : Schema} (h : item.WrittenUsable) : (list item).WrittenUsable := by
  intro levels document out hdepth hout
  rw [read] at hout
  obtain ⟨items, hitems, rfl⟩ := map_eq_ok.1 hout
  -- the array takes one of the levels, and leaves the others to its items
  cases levels with
  | zero => cases hdepth
  | succ levels =>
      refine usable_array fun a hmem => ?_
      obtain ⟨original, hread⟩ := exists_of_list hitems hmem
      exact h (Nat.le_of_succ_le_succ hdepth) hread

theorem dict_usable {value : Schema} (h : value.WrittenUsable) : (dict value).WrittenUsable := by
  intro levels document out hdepth hout
  rw [read] at hout
  obtain ⟨d, hd, rfl⟩ := map_eq_ok.1 hout
  cases levels with
  | zero => cases hdepth
  | succ levels =>
      refine usable_ofDict fun entry hmem => ?_
      obtain ⟨original, hread⟩ := exists_of_dict hd hmem
      exact h (Nat.le_of_succ_le_succ hdepth) hread

theorem blank_usable (h : schema.WrittenUsable) (hdepth : schema.depth ≤ levels) :
    schema.blank.usable levels = true := by
  rcases schema.blank_read levels with hnull | ⟨document, -, hread⟩
  · rw [hnull, usable_null]
  · exact h hdepth hread

theorem field?_usable (h : schema.WrittenUsable) (hdepth : schema.depth ≤ levels) {key : String}
    {value : Option Json} (hvalue : field? members key (schema.read levels) = .ok value) :
    ∀ out ∈ value, out.usable levels = true := by
  rintro out ⟨rfl⟩
  rcases field?_eq_ok hvalue with ⟨-, hnone⟩ | ⟨document, a, -, hread, hsome⟩
  · cases hnone
  · cases hsome
    exact h hdepth hread

theorem fieldD_usable (h : schema.WrittenUsable) (hdepth : schema.depth ≤ levels) {key : String}
    (hout : fieldD members key (schema.read levels) schema.blank = .ok out) :
    out.usable levels = true := by
  rcases fieldD_eq_ok hout with ⟨-, rfl⟩ | ⟨document, -, hread⟩
  · exact blank_usable h hdepth
  · exact h hdepth hread

theorem readNeeded_usable : ∀ {fields : List (String × Schema)} {out : List (String × Json)},
    (∀ field ∈ fields, field.2.WrittenUsable) → depthFields fields ≤ levels →
      readNeeded fields levels members = .ok out → ∀ member ∈ out, member.2.usable levels = true
  | [], out, _, _, h => by
      cases h
      exact nofun
  | (key, schema) :: rest, out, hfields, hdepth, h => by
      rw [depthFields, Nat.max_le] at hdepth
      rw [readNeeded] at h
      obtain ⟨value, hvalue, h⟩ := bind_eq_ok.1 h
      obtain ⟨values, hvalues, rfl⟩ := bind_pure_eq_ok.1 h
      obtain ⟨hschema, hrest⟩ := List.forall_mem_cons.1 hfields
      exact List.forall_mem_cons.2
        ⟨fieldD_usable hschema hdepth.1 hvalue, readNeeded_usable hrest hdepth.2 hvalues⟩

theorem readOptional_usable : ∀ {fields : List (String × Schema)} {out : List (String × Json)},
    (∀ field ∈ fields, field.2.WrittenUsable) → depthFields fields ≤ levels →
      readOptional fields levels members = .ok out → ∀ member ∈ out, member.2.usable levels = true
  | [], out, _, _, h => by
      cases h
      exact nofun
  | (key, schema) :: rest, out, hfields, hdepth, h => by
      rw [depthFields, Nat.max_le] at hdepth
      obtain ⟨value, values, hvalue, hvalues, rfl⟩ := readOptional_cons_eq_ok.1 h
      obtain ⟨hschema, hrest⟩ := List.forall_mem_cons.1 hfields
      have husable := field?_usable hschema hdepth.1 hvalue
      have htail := readOptional_usable hrest hdepth.2 hvalues
      cases value with
      | none => exact htail
      | some document => exact List.forall_mem_cons.2 ⟨husable document rfl, htail⟩

theorem object_usable {needed optional : List (String × Schema)}
    (hneeded : ∀ field ∈ needed, field.2.WrittenUsable)
    (hoptional : ∀ field ∈ optional, field.2.WrittenUsable) :
    (object needed optional).WrittenUsable := by
  intro levels document out hdepth hout
  obtain ⟨members, found, values, hfound, hvalues, rfl⟩ := read_object_eq_ok hout
  cases levels with
  | zero => cases hdepth
  | succ levels =>
      obtain ⟨hneededDepth, hoptionalDepth⟩ := Nat.max_le.1 (Nat.le_of_succ_le_succ hdepth)
      exact usable_append
        (readNeeded_usable hneeded hneededDepth hfound)
        (readOptional_usable hoptional hoptionalDepth hvalues)

theorem resource_usable {version kind : String} {needed optional : List (String × Schema)}
    (hneeded : ∀ field ∈ needed, field.2.WrittenUsable)
    (hoptional : ∀ field ∈ optional, field.2.WrittenUsable) :
    (resource version kind needed optional).WrittenUsable := by
  intro levels document out hdepth hout
  obtain ⟨members, found, values, hfound, hvalues, rfl⟩ := read_resource_eq_ok hout
  cases levels with
  | zero => cases hdepth
  | succ levels =>
      obtain ⟨hneededDepth, hoptionalDepth⟩ := Nat.max_le.1 (Nat.le_of_succ_le_succ hdepth)
      have htype : ∀ member ∈ typeMembers version kind, member.2.usable levels = true := by
        simp [typeMembers]
      exact usable_append htype <| List.forall_mem_append.2
        ⟨readNeeded_usable hneeded hneededDepth hfound,
          readOptional_usable hoptional hoptionalDepth hvalues⟩

mutual

/-- **What a schema writes is as deep as the schema.** -/
theorem writtenUsable : ∀ schema : Schema, schema.WrittenUsable
  | .text => fun _ h => through_usable (fun s => usable_string s _) h
  | .flag => fun _ h => through_usable (fun b => usable_bool b _) h
  | .int32 => fun _ h => through_usable (fun n : Signed32 => usable_int n.val _) h
  | .int64 => fun _ h => through_usable (fun n : Signed64 => usable_int n.val _) h
  | .time => fun _ h => through_usable (fun a : Instant => usable_string a.wholeText _) h
  | .intOrText => fun _ h => by
      rcases readIntOrText_eq_ok h with ⟨s, rfl⟩ | ⟨n, rfl⟩
      · exact usable_string s _
      · exact usable_int n.val _
  | .anything => fun _ h => by
      obtain ⟨husable, rfl⟩ := raw_eq_ok.1 h
      exact usable_canonical husable
  | .list item => list_usable (writtenUsable item)
  | .dict value => dict_usable (writtenUsable value)
  | .object needed optional =>
      object_usable (writtenUsable_fields needed) (writtenUsable_fields optional)
  | .resource _ _ needed optional =>
      resource_usable (writtenUsable_fields needed) (writtenUsable_fields optional)

theorem writtenUsable_fields : ∀ fields : List (String × Schema),
    ∀ field ∈ fields, field.2.WrittenUsable
  | [] => nofun
  | (_, schema) :: rest =>
      List.forall_mem_cons.2 ⟨writtenUsable schema, writtenUsable_fields rest⟩

end

/-- No part of an object that is kept as it is nests deeper than the levels. -/
theorem Fields.usable_of_read {fields : Fields} {other : List (String × Json)}
    (hneeded : depthFields fields.needed ≤ levels)
    (hoptional : depthFields fields.optional ≤ levels)
    (h : fields.read levels members = .ok other) :
    ∀ member ∈ other, member.2.usable levels = true := by
  obtain ⟨found, values, hfound, hvalues, rfl⟩ := read_eq_ok.1 h
  exact List.forall_mem_append.2
    ⟨readNeeded_usable (writtenUsable_fields _) hneeded hfound,
      readOptional_usable (writtenUsable_fields _) hoptional hvalues⟩

end ScaleMetrics.Schema
