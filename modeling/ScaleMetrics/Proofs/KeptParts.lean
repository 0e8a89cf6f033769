import ScaleMetrics.Proofs.Stability
import ScaleMetrics.Proofs.Timestamps
import ScaleMetrics.Schema.Controller

/-!
# Proofs — Kept parts

Most of an object of the cluster is kept as a schema reads it.  What a schema read once it reads
again as it is (`Schema.ReadAgain`), whatever was left out, given by null or given in another form
the first time; this needs only that no object of the schema has two fields of one key
(`readAgain_of_distinct`).  There is one lemma for each kind of schema, and the law follows
by induction on schemas and their fields.

Where some fields of an object have a use, they are written in front of those that are kept.  If
their names are not among the keys of the schema, both are found again (`Fields.Apart.beside`).
-/

namespace ScaleMetrics

open Json

/-- The time is read back without its fraction of a second. -/
theorem Instant.ofJson_toWholeJson (a : Instant) : Instant.ofJson a.toWholeJson = .ok a.whole := by
  rw [toWholeJson, ofJson, read?_wholeText]

theorem Instant.toWholeJson_whole (a : Instant) : a.whole.toWholeJson = a.toWholeJson :=
  congrArg Json.string a.wholeText_whole

namespace Schema

variable {schema : Schema} {levels : Nat} {document out : Json} {key : String}
  {members : List (String × Json)}

/-! ### Schemas with distinct keys -/

/-- The keys of some fields. -/
def keys (fields : List (String × Schema)) : List String :=
  fields.map (·.1)

mutual

/-- No object of the schema has two fields of one key, or one of the keys of its type. -/
def distinct : Schema → Bool
  | .list item => item.distinct
  | .dict value => value.distinct
  | .object needed optional =>
    decide (keys needed ++ keys optional).Nodup && distinctFields needed && distinctFields optional
  | .resource _ _ needed optional =>
    decide ("apiVersion" :: "kind" :: (keys needed ++ keys optional)).Nodup &&
      distinctFields needed && distinctFields optional
  | _ => true

/-- The same of the schemas of some fields. -/
def distinctFields : List (String × Schema) → Bool
  | [] => true
  | (_, schema) :: rest => schema.distinct && distinctFields rest

end

/-! ### What is read is read again -/

/-- What is written is read again. -/
def ReadAgain (schema : Schema) : Prop :=
  ∀ {levels document out}, schema.read levels document = .ok out →
    schema.read levels out = .ok out

theorem through_again {α : Type} {decode : Decoder α} {encode : α → Json}
    (h : ∀ a, through decode encode (encode a) = .ok (encode a))
    (hout : through decode encode document = .ok out) : through decode encode out = .ok out := by
  obtain ⟨a, -, rfl⟩ := map_eq_ok.1 hout
  exact h a

theorem list_again {item : Schema} (h : item.ReadAgain) : (list item).ReadAgain := by
  intro levels document out hout
  rw [read] at hout ⊢
  obtain ⟨items, hitems, rfl⟩ := map_eq_ok.1 hout
  refine map_eq_ok.2 ⟨items, mapM_eq_ok.2 (List.forall₂_same.2 fun a hmem => ?_), rfl⟩
  obtain ⟨original, hread⟩ := exists_of_list hitems hmem
  exact h hread

theorem dict_again {value : Schema} (h : value.ReadAgain) : (dict value).ReadAgain := by
  intro levels document out hout
  rw [read] at hout ⊢
  obtain ⟨d, hd, rfl⟩ := map_eq_ok.1 hout
  refine map_eq_ok.2 ⟨d, dict_ofDict fun entry hmem => ?_, rfl⟩
  obtain ⟨original, hread⟩ := exists_of_dict hd hmem
  exact h hread

theorem readIntOrText_eq_ok (h : readIntOrText document = .ok out) :
    (∃ s, out = .string s) ∨ ∃ n : Signed32, out = ofBounded n := by
  cases document with
  | string s =>
      cases h
      exact .inl ⟨s, rfl⟩
  | number n =>
      change through .signed32 ofBounded (.number n) = .ok out at h
      obtain ⟨a, -, rfl⟩ := map_eq_ok.1 h
      exact .inr ⟨a, rfl⟩
  | _ => cases h

/-- An object is written as its fields, the needed in front. -/
theorem read_object_eq_ok {needed optional : List (String × Schema)}
    (h : (object needed optional).read levels document = .ok out) :
    ∃ members found values, readNeeded needed (levels - 1) members = .ok found ∧
      readOptional optional (levels - 1) members = .ok values ∧
      out = .object (found ++ values) := by
  rw [read] at h
  obtain ⟨members, -, h⟩ := bind_eq_ok.1 h
  obtain ⟨found, hfound, h⟩ := bind_eq_ok.1 h
  obtain ⟨values, hvalues, rfl⟩ := bind_pure_eq_ok.1 h
  exact ⟨members, found, values, hfound, hvalues, rfl⟩

/-- A resource is written as an object with its type in front. -/
theorem read_resource_eq_ok {version kind : String} {needed optional : List (String × Schema)}
    (h : (resource version kind needed optional).read levels document = .ok out) :
    ∃ members found values, readNeeded needed (levels - 1) members = .ok found ∧
      readOptional optional (levels - 1) members = .ok values ∧
      out = .object (typeMembers version kind ++ (found ++ values)) := by
  rw [read] at h
  obtain ⟨members, -, h⟩ := bind_eq_ok.1 h
  obtain ⟨-, -, h⟩ := bind_eq_ok.1 h
  obtain ⟨-, -, h⟩ := bind_eq_ok.1 h
  obtain ⟨found, hfound, h⟩ := bind_eq_ok.1 h
  obtain ⟨values, hvalues, rfl⟩ := bind_pure_eq_ok.1 h
  exact ⟨members, found, values, hfound, hvalues, by rw [List.append_assoc]⟩

theorem through_ne_null {α : Type} {decode : Decoder α} {encode : α → Json}
    (h : ∀ a, encode a ≠ .null) (hout : through decode encode document = .ok out) :
    out ≠ .null := by
  obtain ⟨a, -, rfl⟩ := map_eq_ok.1 hout
  exact h a

/-- Only null is read as null. -/
theorem read_ne_null (h : schema.read levels document = .ok out) (hnull : document ≠ .null) :
    out ≠ .null := by
  cases schema with
  | text => exact through_ne_null (by simp) h
  | flag => exact through_ne_null (by simp) h
  | int32 => exact through_ne_null (by simp [ofBounded, int]) h
  | int64 => exact through_ne_null (by simp [ofBounded, int]) h
  | time => exact through_ne_null (by simp [Instant.toWholeJson]) h
  | intOrText =>
      rcases readIntOrText_eq_ok h with ⟨s, rfl⟩ | ⟨n, rfl⟩ <;> simp [ofBounded, int]
  | anything =>
      obtain ⟨-, rfl⟩ := raw_eq_ok.1 h
      exact mt canonical_eq_null.1 hnull
  | list item => exact through_ne_null (by simp) h
  | dict value => exact through_ne_null (fun _ => object_ne_null _) h
  | object needed optional =>
      obtain ⟨_, _, _, -, -, rfl⟩ := read_object_eq_ok h
      exact object_ne_null _
  | resource version kind needed optional =>
      obtain ⟨_, _, _, -, -, rfl⟩ := read_resource_eq_ok h
      exact object_ne_null _

/-! ### Fields -/

/-- A value is that of a field which is there. -/
def Settled (schema : Schema) (levels : Nat) (value : Json) : Prop :=
  Decoder.nullable (schema.read levels) value = .ok (some value)

theorem settled_of_nullable (hschema : schema.ReadAgain) {value : Json}
    (h : Decoder.nullable (schema.read levels) document = .ok (some value)) :
    schema.Settled levels value := by
  rcases nullable_eq_ok h with ⟨-, hnone⟩ | ⟨hnull, out, hread, hsome⟩
  · cases hnone
  · cases hsome
    rw [Settled, nullable_of_ne_null _ (read_ne_null hread hnull), hschema hread]
    rfl

theorem read_resource_nil (version kind : String) (needed optional : List (String × Schema)) :
    (resource version kind needed optional).read levels (.object []) =
      .ok (resource version kind needed optional).blank := by
  rw [read, blank]
  refine bind_ok (members_eq_ok.2 rfl) <| bind_ok (a := ()) rfl <| bind_ok (a := ()) rfl <|
    bind_ok (readNeeded_nil ..) <| bind_ok (readOptional_nil ..) ?_
  rw [List.append_nil]
  rfl

/-- The blank of a schema is null, or is read of some document other than null. -/
theorem blank_read (schema : Schema) (levels : Nat) :
    schema.blank = .null ∨
      ∃ document, document ≠ .null ∧ schema.read levels document = .ok schema.blank := by
  cases schema with
  | anything => exact .inl rfl
  | object needed optional =>
      exact .inr ⟨_, object_ne_null [], read_object_nil needed optional levels⟩
  | resource version kind needed optional =>
      exact .inr ⟨_, object_ne_null [], read_resource_nil version kind needed optional⟩
  | time =>
      rw [blank]
      refine .inr ⟨Instant.epoch.toWholeJson, by simp [Instant.toWholeJson], ?_⟩
      exact map_eq_ok.2 ⟨_, Instant.epoch.ofJson_toWholeJson, Instant.epoch.toWholeJson_whole⟩
  | text => exact .inr ⟨.string "", by simp, rfl⟩
  | flag => exact .inr ⟨.bool false, by simp, rfl⟩
  | list item => exact .inr ⟨.array [], by simp, rfl⟩
  | dict value => exact .inr ⟨.object [], object_ne_null [], rfl⟩
  | _ => exact .inr ⟨Json.int 0, by simp [int], rfl⟩

theorem blank_settled (hschema : schema.ReadAgain) (levels : Nat) :
    schema.blank = .null ∨ schema.Settled levels schema.blank := by
  rcases schema.blank_read levels with hnull | ⟨document, hnull, hread⟩
  · exact .inl hnull
  · refine .inr ?_
    rw [Settled, nullable_of_ne_null _ (read_ne_null hread hnull), hschema hread]
    rfl

theorem field?_again (hschema : schema.ReadAgain) {value : Option Json}
    (h : field? members key (schema.read levels) = .ok value) {again : List (String × Json)}
    (hagain : valuesAt key again = value.toList) :
    field? again key (schema.read levels) = .ok value := by
  cases value with
  | none => exact field?_of_nil hagain
  | some value =>
      rcases field?_eq_last h with ⟨-, hnone⟩ | ⟨document, -, hread⟩
      · cases hnone
      · exact field?_of_single hagain (settled_of_nullable hschema hread)

theorem fieldD_again (hschema : schema.ReadAgain) {value : Json}
    (h : fieldD members key (schema.read levels) schema.blank = .ok value)
    {again : List (String × Json)} (hagain : valuesAt key again = [value]) :
    fieldD again key (schema.read levels) schema.blank = .ok value := by
  have hsettled : ∀ {a : Json}, schema.Settled levels a → valuesAt key again = [a] →
      fieldD again key (schema.read levels) schema.blank = .ok a :=
    fun ha hvalues => bind_ok (field?_of_single hvalues ha) rfl
  obtain ⟨found, hfound, rfl⟩ := bind_pure_eq_ok.1 h
  cases found with
  | some value =>
      rcases field?_eq_last hfound with ⟨-, hnone⟩ | ⟨document, -, hread⟩
      · cases hnone
      · exact hsettled (settled_of_nullable hschema hread) hagain
  | none =>
      -- the field was missing, and its blank has been written
      rcases blank_settled hschema levels with hnull | hblank
      · rw [Option.getD_none, hnull] at hagain
        exact bind_ok (field?_of_single hagain rfl) rfl
      · exact hsettled hblank hagain

/-! ### Fields of an object -/

theorem keys_of_readNeeded : ∀ {fields : List (String × Schema)} {out : List (String × Json)},
    readNeeded fields levels members = .ok out → out.map (·.1) = keys fields
  | [], out, h => by
      cases h
      rfl
  | (key, schema) :: rest, out, h => by
      rw [readNeeded] at h
      obtain ⟨value, -, h⟩ := bind_eq_ok.1 h
      obtain ⟨values, hvalues, rfl⟩ := bind_pure_eq_ok.1 h
      rw [List.map_cons, keys_of_readNeeded hvalues]
      rfl

/-- The optional fields are read one after the other. -/
theorem readOptional_cons_eq_ok {rest : List (String × Schema)} {out : List (String × Json)} :
    readOptional ((key, schema) :: rest) levels members = .ok out ↔
      ∃ value values, field? members key (schema.read levels) = .ok value ∧
        readOptional rest levels members = .ok values ∧
          out = present [(key, value)] ++ values := by
  rw [readOptional]
  constructor
  · intro h
    obtain ⟨value, hvalue, h⟩ := bind_eq_ok.1 h
    obtain ⟨values, hvalues, h⟩ := bind_eq_ok.1 h
    refine ⟨value, values, hvalue, hvalues, ?_⟩
    cases value with
    | none => exact (pure_eq_ok.1 h).symm
    | some document => exact (pure_eq_ok.1 h).symm
  · rintro ⟨value, values, hvalue, hvalues, rfl⟩
    refine bind_ok hvalue (bind_ok hvalues ?_)
    cases value <;> rfl

theorem keys_of_readOptional : ∀ {fields : List (String × Schema)} {out : List (String × Json)},
    readOptional fields levels members = .ok out → out.map (·.1) ⊆ keys fields
  | [], out, h => by
      cases h
      exact List.Subset.refl _
  | (key, schema) :: rest, out, h => by
      obtain ⟨value, values, -, hvalues, rfl⟩ := readOptional_cons_eq_ok.1 h
      have hrest := keys_of_readOptional hvalues
      intro k hk
      rw [List.map_append, List.mem_append] at hk
      rcases hk with hk | hk
      · exact List.mem_cons.2 (.inl (List.mem_singleton.1 (mem_keys_present hk)))
      · exact List.mem_cons_of_mem _ (hrest hk)

/-- Two lists of members have the same values at the keys of some fields. -/
def Agree (fields : List (String × Schema)) (members members' : List (String × Json)) : Prop :=
  ∀ key ∈ keys fields, valuesAt key members = valuesAt key members'

theorem readNeeded_again : ∀ {fields : List (String × Schema)} {out : List (String × Json)},
    (∀ field ∈ fields, field.2.ReadAgain) → (keys fields).Nodup →
      readNeeded fields levels members = .ok out →
        ∀ {again : List (String × Json)}, Agree fields again out →
          readNeeded fields levels again = .ok out
  | [], out, _, _, h, _, _ => h
  | (key, schema) :: rest, out, hfields, hkeys, h, again, hagree => by
      obtain ⟨hkey, hrestKeys⟩ := List.nodup_cons.1 hkeys
      rw [readNeeded] at h
      obtain ⟨value, hvalue, h⟩ := bind_eq_ok.1 h
      obtain ⟨values, hvalues, rfl⟩ := bind_pure_eq_ok.1 h
      -- the other fields wrote nothing at this key, so its own value is the only one
      have hnone : valuesAt key values = [] :=
        valuesAt_eq_nil (by rw [keys_of_readNeeded hvalues]; exact hkey)
      have hone : valuesAt key again = [value] := by
        rw [hagree key List.mem_cons_self, valuesAt_cons, if_pos rfl, hnone]
      have hrest : Agree rest again values := by
        intro k hk
        rw [hagree k (List.mem_cons_of_mem _ hk), valuesAt_cons, if_neg]
        rintro rfl
        exact hkey hk
      exact bind_ok (fieldD_again (hfields _ List.mem_cons_self) hvalue hone) <|
        bind_ok (readNeeded_again (fun field hmem => hfields field (List.mem_cons_of_mem _ hmem))
          hrestKeys hvalues hrest) rfl

theorem readOptional_again : ∀ {fields : List (String × Schema)} {out : List (String × Json)},
    (∀ field ∈ fields, field.2.ReadAgain) → (keys fields).Nodup →
      readOptional fields levels members = .ok out →
        ∀ {again : List (String × Json)}, Agree fields again out →
          readOptional fields levels again = .ok out
  | [], out, _, _, h, _, _ => h
  | (key, schema) :: rest, out, hfields, hkeys, h, again, hagree => by
      obtain ⟨hkey, hrestKeys⟩ := List.nodup_cons.1 hkeys
      obtain ⟨value, values, hvalue, hvalues, rfl⟩ := readOptional_cons_eq_ok.1 h
      have hnone : valuesAt key values = [] :=
        valuesAt_eq_nil fun hmem => hkey (keys_of_readOptional hvalues hmem)
      have hone : valuesAt key again = value.toList := by
        rw [hagree key List.mem_cons_self, valuesAt_append, hnone]
        simp
      have hrest : Agree rest again values := by
        intro k hk
        have hne : key ≠ k := by
          rintro rfl
          exact hkey hk
        rw [hagree k (List.mem_cons_of_mem _ hk), valuesAt_append]
        simp [hne]
      exact readOptional_cons_eq_ok.2 ⟨value, values,
        field?_again (hfields _ List.mem_cons_self) hvalue hone,
        readOptional_again (fun field hmem => hfields field (List.mem_cons_of_mem _ hmem))
          hrestKeys hvalues hrest, rfl⟩

/-! ### Objects -/

theorem keys_of_readFields {needed optional : List (String × Schema)}
    {found values : List (String × Json)} (hfound : readNeeded needed levels members = .ok found)
    (hvalues : readOptional optional levels members = .ok values) :
    (found ++ values).map (·.1) ⊆ keys needed ++ keys optional := by
  intro key hkey
  rw [List.map_append, keys_of_readNeeded hfound] at hkey
  rcases List.mem_append.1 hkey with hkey | hkey
  · exact List.mem_append_left _ hkey
  · exact List.mem_append_right _ (keys_of_readOptional hvalues hkey)

/-- The type is declared in front of members of other keys. -/
theorem declares_typeMembers (version kind : String) {rest : List (String × Json)}
    (hrest : ∀ key ∈ ["apiVersion", "kind"], key ∉ rest.map (·.1)) :
    Json.declares (typeMembers version kind ++ rest) "apiVersion" version = .ok () ∧
      Json.declares (typeMembers version kind ++ rest) "kind" kind = .ok () := by
  simp only [List.forall_mem_cons] at hrest
  constructor <;> rw [declares_eq_ok, valuesAt_append_left (by simp [hrest])] <;>
    simp [typeMembers, valuesAt]

/-- The fields of an object are read again behind members of other keys. -/
theorem fields_again {front : List (String × Json)} {needed optional : List (String × Schema)}
    (hkeys : (keys needed ++ keys optional).Nodup)
    (hneeded : ∀ field ∈ needed, field.2.ReadAgain)
    (hoptional : ∀ field ∈ optional, field.2.ReadAgain)
    (hfront : ∀ key ∈ keys needed ++ keys optional, key ∉ front.map (·.1))
    {found values : List (String × Json)}
    (hfound : readNeeded needed levels members = .ok found)
    (hvalues : readOptional optional levels members = .ok values) :
    readNeeded needed levels (front ++ (found ++ values)) = .ok found ∧
      readOptional optional levels (front ++ (found ++ values)) = .ok values := by
  obtain ⟨hneededKeys, hoptionalKeys, hdisjoint⟩ := List.nodup_append.1 hkeys
  have hvaluesKeys := keys_of_readOptional hvalues
  -- each part is found at its keys, at which neither the front nor the other part has a value
  constructor
  · refine readNeeded_again hneeded hneededKeys hfound fun key hkey => ?_
    rw [valuesAt_append_right (hfront key (List.mem_append_left _ hkey)),
      valuesAt_append_left fun hmem => hdisjoint key hkey key (hvaluesKeys hmem) rfl]
  · refine readOptional_again hoptional hoptionalKeys hvalues fun key hkey => ?_
    rw [valuesAt_append_right (hfront key (List.mem_append_right _ hkey))]
    refine valuesAt_append_right fun hmem => ?_
    rw [keys_of_readNeeded hfound] at hmem
    exact hdisjoint key hmem key hkey rfl

theorem object_again {needed optional : List (String × Schema)}
    (hkeys : (keys needed ++ keys optional).Nodup)
    (hneeded : ∀ field ∈ needed, field.2.ReadAgain)
    (hoptional : ∀ field ∈ optional, field.2.ReadAgain) : (object needed optional).ReadAgain := by
  intro levels document out h
  obtain ⟨members, found, values, hfound, hvalues, rfl⟩ := read_object_eq_ok h
  rw [read]
  have hfront : ∀ key ∈ keys needed ++ keys optional,
      key ∉ ([] : List (String × Json)).map (·.1) := fun _ _ => List.not_mem_nil
  obtain ⟨hfound, hvalues⟩ := fields_again hkeys hneeded hoptional hfront hfound hvalues
  exact bind_ok (members_eq_ok.2 rfl) (bind_ok hfound (bind_ok hvalues rfl))

theorem resource_again {version kind : String} {needed optional : List (String × Schema)}
    (hkeys : ("apiVersion" :: "kind" :: (keys needed ++ keys optional)).Nodup)
    (hneeded : ∀ field ∈ needed, field.2.ReadAgain)
    (hoptional : ∀ field ∈ optional, field.2.ReadAgain) :
    (resource version kind needed optional).ReadAgain := by
  intro levels document out h
  obtain ⟨members, found, values, hfound, hvalues, rfl⟩ := read_resource_eq_ok h
  rw [read]
  obtain ⟨-, hfieldKeys, hdisjoint⟩ :=
    List.nodup_append.1 (show (["apiVersion", "kind"] ++ _).Nodup from hkeys)
  have hfront : ∀ key ∈ keys needed ++ keys optional,
      key ∉ (typeMembers version kind).map (·.1) :=
    fun key hkey hmem => hdisjoint key hmem key hkey rfl
  obtain ⟨hfound', hvalues'⟩ := fields_again hfieldKeys hneeded hoptional hfront hfound hvalues
  obtain ⟨hversion, hkind⟩ := declares_typeMembers version kind fun key hkey hmem =>
    hdisjoint key hkey key (keys_of_readFields hfound hvalues hmem) rfl
  exact bind_ok (members_eq_ok.2 rfl) <| bind_ok hversion <| bind_ok hkind <|
    bind_ok hfound' <| bind_ok hvalues' (by rw [List.append_assoc]; rfl)

mutual

/-- **What a schema reads it reads again as it is.** -/
theorem readAgain_of_distinct : ∀ schema : Schema, schema.distinct = true → schema.ReadAgain
  | .text, _ => fun h => through_again (fun s => map_eq_ok.2 ⟨s, text_string s, rfl⟩) h
  | .flag, _ => fun h => through_again (fun b => map_eq_ok.2 ⟨b, flag_bool b, rfl⟩) h
  | .int32, _ => fun h => through_again (fun n => map_eq_ok.2 ⟨n, signed32_ofBounded n, rfl⟩) h
  | .int64, _ => fun h => through_again (fun n => map_eq_ok.2 ⟨n, signed64_ofBounded n, rfl⟩) h
  | .time, _ => fun h => through_again
      (fun a => map_eq_ok.2 ⟨a.whole, a.ofJson_toWholeJson, a.toWholeJson_whole⟩) h
  | .intOrText, _ => fun h => by
      rcases readIntOrText_eq_ok h with ⟨s, rfl⟩ | ⟨n, rfl⟩
      · rfl
      · exact map_eq_ok.2 ⟨n, signed32_ofBounded n, rfl⟩
  | .anything, _ => fun h => by
      obtain ⟨husable, rfl⟩ := raw_eq_ok.1 h
      exact raw_eq_ok.2 ⟨usable_canonical husable, canonical_canonical _⟩
  | .list item, h => list_again (readAgain_of_distinct item h)
  | .dict value, h => dict_again (readAgain_of_distinct value h)
  | .object needed optional, h => by
      simp only [distinct, Bool.and_eq_true, decide_eq_true_eq] at h
      exact object_again h.1.1 (readAgain_of_distinctFields needed h.1.2)
        (readAgain_of_distinctFields optional h.2)
  | .resource _ _ needed optional, h => by
      simp only [distinct, Bool.and_eq_true, decide_eq_true_eq] at h
      exact resource_again h.1.1 (readAgain_of_distinctFields needed h.1.2)
        (readAgain_of_distinctFields optional h.2)

theorem readAgain_of_distinctFields : ∀ fields : List (String × Schema),
    distinctFields fields = true → ∀ field ∈ fields, field.2.ReadAgain
  | [], _ => nofun
  | (_, schema) :: rest, h => by
      rw [distinctFields, Bool.and_eq_true] at h
      exact List.forall_mem_cons.2
        ⟨readAgain_of_distinct schema h.1, readAgain_of_distinctFields rest h.2⟩

end

/-! ### Fields beside others -/

/-- The known fields have keys of their own beside some names, and so have all their parts. -/
structure Fields.Apart (fields : Fields) (names : List String) : Prop where
  nodup : (names ++ (keys fields.needed ++ keys fields.optional)).Nodup
  needed : distinctFields fields.needed = true
  optional : distinctFields fields.optional = true

instance (fields : Fields) (names : List String) : Decidable (fields.Apart names) :=
  decidable_of_iff
    ((names ++ (keys fields.needed ++ keys fields.optional)).Nodup ∧
      distinctFields fields.needed = true ∧ distinctFields fields.optional = true)
    ⟨fun h => ⟨h.1, h.2.1, h.2.2⟩, fun h => ⟨h.1, h.2, h.3⟩⟩

theorem Fields.read_eq_ok {fields : Fields} {other : List (String × Json)} :
    fields.read levels members = .ok other ↔
      ∃ found values, readNeeded fields.needed levels members = .ok found ∧
        readOptional fields.optional levels members = .ok values ∧ other = found ++ values := by
  constructor
  · intro h
    obtain ⟨found, hfound, h⟩ := bind_eq_ok.1 h
    obtain ⟨values, hvalues, rfl⟩ := bind_pure_eq_ok.1 h
    exact ⟨found, values, hfound, hvalues, rfl⟩
  · rintro ⟨found, values, hfound, hvalues, rfl⟩
    exact bind_ok hfound (bind_ok hvalues rfl)

theorem Fields.keys_of_read {fields : Fields} {other : List (String × Json)}
    (hother : fields.read levels members = .ok other) :
    other.map (·.1) ⊆ keys fields.needed ++ keys fields.optional := by
  obtain ⟨found, values, hfound, hvalues, rfl⟩ := read_eq_ok.1 hother
  exact keys_of_readFields hfound hvalues

/-- Written behind the fields of the names, what was read of the known fields is read again, and
each of the names has its own value. -/
theorem Fields.Apart.beside (used : List (String × Option Json)) {fields : Fields}
    {other : List (String × Json)} (h : fields.Apart (used.map (·.1)))
    (hother : fields.read levels members = .ok other) :
    (∀ field ∈ used, valuesAt field.1 (present used ++ other) = field.2.toList) ∧
      fields.read levels (present used ++ other) = .ok other := by
  obtain ⟨hnames, hkeys, hapart⟩ := List.nodup_append.1 h.nodup
  constructor
  · intro field hfield
    have hname := List.mem_map_of_mem (f := (·.1)) hfield
    rw [valuesAt_append_left fun hmem => hapart _ hname _ (keys_of_read hother hmem) rfl]
    exact valuesAt_present_of_mem hnames hfield
  · obtain ⟨found, values, hfound, hvalues, rfl⟩ := read_eq_ok.1 hother
    obtain ⟨hfound', hvalues'⟩ := fields_again hkeys
      (readAgain_of_distinctFields _ h.needed) (readAgain_of_distinctFields _ h.optional)
      (fun key hkey hmem => hapart _ (mem_keys_present hmem) key hkey rfl) hfound hvalues
    exact read_eq_ok.2 ⟨found, values, hfound', hvalues', rfl⟩

/-- Optional fields alone. -/
def Fields.ofOptional (optional : List (String × Schema)) : Fields :=
  ⟨[], optional⟩

theorem Fields.read_ofOptional (optional : List (String × Schema)) (levels : Nat)
    (members : List (String × Json)) :
    (Fields.ofOptional optional).read levels members = readOptional optional levels members := by
  cases h : readOptional optional levels members with
  | error e => exact bind_eq_error.2 (.inr ⟨[], rfl, bind_eq_error.2 (.inl h)⟩)
  | ok values => exact bind_ok (a := []) rfl (bind_ok h rfl)

/-- The same of optional fields alone. -/
theorem Fields.Apart.optional_beside (used : List (String × Option Json))
    {optional : List (String × Schema)} {other : List (String × Json)}
    (h : (Fields.ofOptional optional).Apart (used.map (·.1)))
    (hother : readOptional optional levels members = .ok other) :
    (∀ field ∈ used, valuesAt field.1 (present used ++ other) = field.2.toList) ∧
      readOptional optional levels (present used ++ other) = .ok other := by
  rw [← Fields.read_ofOptional] at hother ⊢
  exact h.beside used hother

end Schema

end ScaleMetrics
