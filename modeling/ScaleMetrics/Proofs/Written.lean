import ScaleMetrics.Json.Decoder.Lemmas
import ScaleMetrics.Proofs.Document

/-!
# Proofs — Written

Fields of an object that was written are read back.

`Written decode encode a` says that `a` is read back from what is written for it, and that this is
not null.  A field is then read back from an object that holds what is written for its value
and holds it once: in a resource (`field?_written`, `fieldD_written`) and in a record
(`required_written`, `nullable_written`), whose fields are all found again
(`recordFields_record`).  What an object of optional fields holds at a key is computed by
`valuesAt_present_cons` and `lookup_present_cons`.
-/

namespace ScaleMetrics.Json

variable {α : Type} {key : String} {members : List (String × Json)}

/-! ### Values at a key -/

theorem valuesAt_cons (key : String) (member : String × Json) (rest : List (String × Json)) :
    valuesAt key (member :: rest) =
      if member.1 = key then member.2 :: valuesAt key rest else valuesAt key rest := by
  rw [valuesAt, List.filterMap_cons]
  split_ifs <;> rfl

theorem valuesAt_append (key : String) (xs ys : List (String × Json)) :
    valuesAt key (xs ++ ys) = valuesAt key xs ++ valuesAt key ys :=
  List.filterMap_append

theorem valuesAt_eq_nil (h : key ∉ members.map (·.1)) : valuesAt key members = [] := by
  refine List.filterMap_eq_nil_iff.2 fun member hmem => if_neg ?_
  rintro rfl
  exact h (List.mem_map_of_mem hmem)

theorem valuesAt_append_left {xs ys : List (String × Json)} (h : key ∉ ys.map (·.1)) :
    valuesAt key (xs ++ ys) = valuesAt key xs := by
  rw [valuesAt_append, valuesAt_eq_nil h, List.append_nil]

theorem valuesAt_append_right {xs ys : List (String × Json)} (h : key ∉ xs.map (·.1)) :
    valuesAt key (xs ++ ys) = valuesAt key ys := by
  rw [valuesAt_append, valuesAt_eq_nil h, List.nil_append]

/-- A key that occurs once has one value. -/
theorem valuesAt_of_mem (h : (members.map (·.1)).Nodup) {document : Json}
    (hmem : (key, document) ∈ members) : valuesAt key members = [document] := by
  induction members with
  | nil => cases hmem
  | cons first rest ih =>
      obtain ⟨hfirst, hrest⟩ := List.nodup_cons.1 h
      rw [valuesAt_cons]
      rcases List.mem_cons.1 hmem with rfl | hmem
      · rw [if_pos rfl, valuesAt_eq_nil hfirst]
      · rw [if_neg, ih hrest hmem]
        intro heq
        exact hfirst (List.mem_map.2 ⟨(key, document), hmem, heq.symm⟩)

theorem lastMember?_of_valuesAt {document : Json} (h : valuesAt key members = [document]) :
    lastMember? key members = some document := by
  rw [← getLast?_valuesAt, h]
  rfl

@[simp] theorem valuesAt_present_nil (key : String) : valuesAt key (present []) = [] :=
  rfl

@[simp] theorem valuesAt_present_cons (key k : String) (value : Option Json)
    (rest : List (String × Option Json)) :
    valuesAt key (present ((k, value) :: rest)) =
      if k = key then value.toList ++ valuesAt key (present rest)
      else valuesAt key (present rest) := by
  cases value with
  | none => simp [present]
  | some document =>
      change valuesAt key ((k, document) :: present rest) = _
      rw [valuesAt_cons]
      rfl

@[simp] theorem lookup_present_nil (key : String) : (present []).lookup key = none :=
  rfl

@[simp] theorem lookup_present_cons (key k : String) (value : Option Json)
    (rest : List (String × Option Json)) :
    (present ((k, value) :: rest)).lookup key =
      if key = k then value.or ((present rest).lookup key) else (present rest).lookup key := by
  cases value with
  | none => simp [present]
  | some document =>
      change ((k, document) :: present rest).lookup key = _
      rw [Dict.lookup_cons_eq]
      rfl

/-- Only the keys of the fields are keys. -/
theorem mem_keys_present {fields : List (String × Option Json)}
    (h : key ∈ (present fields).map (·.1)) : key ∈ fields.map (·.1) := by
  obtain ⟨member, hmem, rfl⟩ := List.mem_map.1 h
  obtain ⟨field, hfield, hmember⟩ := List.mem_filterMap.1 hmem
  obtain ⟨document, -, rfl⟩ := Option.map_eq_some_iff.1 hmember
  exact List.mem_map_of_mem hfield

/-! ### Values -/

/-- The value is read back from what is written for it, which is not null. -/
def Written (decode : Decoder α) (encode : α → Json) (a : α) : Prop :=
  decode (encode a) = .ok a ∧ encode a ≠ .null

theorem object_ne_null (members : List (String × Json)) : object members ≠ .null :=
  nofun

variable {decode : Decoder α} {encode : α → Json} {low high : Int}

theorem Written.nullable {a : α} (h : Written decode encode a) :
    Decoder.nullable decode (encode a) = .ok (some a) := by
  rw [nullable_of_ne_null _ h.2, h.1]
  rfl

theorem written_text (s : String) : Written .text .string s :=
  ⟨text_string s, nofun⟩

theorem written_bounded (n : Bounded low high) : Written (.bounded low high) ofBounded n :=
  ⟨bounded_ofBounded n, nofun⟩

theorem written_names (s : Names) : Written .names ofNames s :=
  ⟨names_ofNames s, nofun⟩

theorem written_list {items : List α} (h : ∀ a ∈ items, Written decode encode a) :
    Written (.list decode) (ofList encode) items :=
  ⟨list_ofList fun a hmem => (h a hmem).1, nofun⟩

theorem written_dict {d : Dict α} (h : ∀ entry ∈ d.toList, Written decode encode entry.2) :
    Written (.dict decode) (ofDict encode) d :=
  ⟨dict_ofDict fun entry hmem => (h entry hmem).1, nofun⟩

theorem written_texts (items : List String) : Written (.list .text) (ofList .string) items :=
  written_list fun s _ => written_text s

theorem written_labels (labels : Dict String) : Written (.dict .text) (ofDict .string) labels :=
  written_dict fun entry _ => written_text entry.2

/-! ### Fields of a resource -/

theorem field?_written (value : Option α) (h : valuesAt key members = (value.map encode).toList)
    (hvalue : ∀ a ∈ value, Written decode encode a) : field? members key decode = .ok value := by
  rw [field?, h]
  cases value with
  | none => rfl
  | some a =>
      exact bind_eq_ok.2 ⟨[some a], mapM_eq_ok.2 (.cons (hvalue a rfl).nullable .nil), rfl⟩

theorem fieldD_written (a : α) {default : α} (h : valuesAt key members = [encode a])
    (ha : Written decode encode a) : fieldD members key decode default = .ok a := by
  have hfield : field? members key decode = .ok (some a) := by
    refine field?_written (some a) h ?_
    rintro _ ⟨rfl⟩
    exact ha
  exact bind_eq_ok.2 ⟨some a, hfield, rfl⟩

/-! ### Fields of a record -/

theorem valuesAt_present_of_mem {fields : List (String × Option Json)}
    (h : (fields.map (·.1)).Nodup) {field : String × Option Json} (hmem : field ∈ fields) :
    valuesAt field.1 (present fields) = field.2.toList := by
  induction fields with
  | nil => cases hmem
  | cons first rest ih =>
      obtain ⟨hfirst, hrest⟩ := List.nodup_cons.1 h
      rw [valuesAt_present_cons]
      rcases List.mem_cons.1 hmem with rfl | hmem
      · rw [if_pos rfl, valuesAt_eq_nil fun hkey => hfirst (mem_keys_present hkey),
          List.append_nil]
      · rw [if_neg, ih hrest hmem]
        intro heq
        exact hfirst (List.mem_map.2 ⟨field, hmem, heq.symm⟩)

theorem flatten_present (fields : List (String × Option Json)) :
    (fields.map fun field => present [field]).flatten = present fields := by
  induction fields with
  | nil => rfl
  | cons first rest ih =>
      rw [List.map_cons, List.flatten_cons, ih, present, present, ← List.filterMap_append]
      rfl

/-- The fields of a record are found among other members. -/
theorem recordFields_of_valuesAt (name : String) {fields : List (String × Option Json)}
    (h : ∀ field ∈ fields, valuesAt field.1 members = field.2.toList) :
    recordFields name (fields.map (·.1)) (.object members) = .ok (present fields) := by
  have hone : ∀ field ∈ fields, onlyMember members field.1 = .ok (present [field]) := by
    rintro ⟨key, value⟩ hmem
    rw [onlyMember, h _ hmem]
    cases value <;> rfl
  have hfound : (fields.map (·.1)).mapM (onlyMember members) =
      .ok (fields.map fun field => present [field]) := by
    rw [mapM_eq_ok, List.forall₂_map_left_iff, List.forall₂_map_right_iff]
    exact List.forall₂_same.2 hone
  change ((fields.map (·.1)).mapM (onlyMember members)).map List.flatten = _
  rw [hfound, Except.map, flatten_present]

/-- The fields of a record that was written are found again. -/
theorem recordFields_record (name : String) {fields : List (String × Option Json)}
    (h : (fields.map (·.1)).Nodup) :
    recordFields name (fields.map (·.1)) (record fields) = .ok (present fields) :=
  recordFields_of_valuesAt name fun _ hmem => valuesAt_present_of_mem h hmem

theorem required_written {fields : List (String × Json)} (a : α)
    (h : fields.lookup key = some (encode a)) (ha : Written decode encode a) :
    required fields key decode = .ok a := by
  rw [required, h]
  exact ha.1

theorem defaulted_written {fields : List (String × Json)} (a : α) {default : α}
    (h : fields.lookup key = some (encode a)) (ha : Written decode encode a) :
    defaulted fields key decode default = .ok a := by
  rw [defaulted, h]
  exact ha.1

/-- A field without a value is left out. -/
theorem nullable_written {fields : List (String × Json)} (value : Option α)
    (h : fields.lookup key = value.map encode) (hvalue : ∀ a ∈ value, Written decode encode a) :
    defaulted fields key (.nullable decode) none = .ok value := by
  rw [defaulted, h]
  cases value with
  | none => rfl
  | some a =>
      exact (hvalue a rfl).nullable

/-- A field without a value is null. -/
theorem null_written {fields : List (String × Json)} (value : Option α)
    (h : fields.lookup key = some ((value.map encode).getD .null))
    (hvalue : ∀ a ∈ value, Written decode encode a) :
    defaulted fields key (.nullable decode) none = .ok value := by
  rw [defaulted, h]
  cases value with
  | none => rfl
  | some a =>
      exact (hvalue a rfl).nullable

end ScaleMetrics.Json
