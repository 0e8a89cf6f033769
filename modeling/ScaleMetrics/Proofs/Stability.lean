import ScaleMetrics.Instant.Reader
import ScaleMetrics.Proofs.Usable

/-!
# Proofs — Stability

A document that can be read is read the same in canonical form: neither the order of the members of
an object matters, nor members that give way to later ones.

`Stable` says this of a decoder, and `StableUnder` of a reading of members, under either of the two
changes that the canonical form makes of them: in a resource they are sorted (`sortedMembers`), in
a record they have been found in order, and only their values change (`canonicalMembers`).  There
is one law for each decoder of values, and one for each step of a reading; a reading of an object
is stable by the laws of its steps (`StableUnder.object`, `StableUnder.record`).
-/

namespace ScaleMetrics.Json

variable {α β : Type} {key : String} {members : List (String × Json)} {document : Json}

/-! ### Values -/

/-- A document that the decoder takes is read the same in canonical form. -/
def Stable (decode : Decoder α) : Prop :=
  ∀ document a, decode document = .ok a → decode document.canonical = .ok a

variable {decode : Decoder α}

theorem stable_text : Stable Decoder.text := by
  intro document a h
  cases document with
  | string s => exact h
  | _ => cases h

theorem stable_flag : Stable Decoder.flag := by
  intro document a h
  cases document with
  | bool b => exact h
  | _ => cases h

theorem stable_bounded (low high : Int) : Stable (Decoder.bounded low high) := by
  intro document a h
  cases document with
  | number n => exact h
  | _ => cases h

theorem stable_instant : Stable Instant.ofJson := by
  intro document a h
  cases document with
  | string s => exact h
  | _ => cases h

theorem Stable.map (h : Stable decode) (f : α → β) :
    Stable fun document => (decode document).map f := by
  intro document b hb
  obtain ⟨a, ha, rfl⟩ := map_eq_ok.1 hb
  exact map_eq_ok.2 ⟨a, h _ _ ha, rfl⟩

/-- What is written is read in the order of the writer and sorted. -/
theorem Written.read_map {encode : α → Json} {a : α} (h : Written decode encode a)
    (hstable : Stable decode) (f : α → β) :
    (decode (encode a)).map f = .ok (f a) ∧ (decode (encode a).canonical).map f = .ok (f a) :=
  ⟨map_eq_ok.2 ⟨a, h.1, rfl⟩, map_eq_ok.2 ⟨a, hstable _ _ h.1, rfl⟩⟩

/-- A document is kept when it is usable, and kept in canonical form. -/
theorem raw_eq_ok {levels : Nat} {kept : Json} :
    Decoder.raw levels document = .ok kept ↔
      document.usable levels = true ∧ document.canonical = kept := by
  rw [Decoder.raw]
  split_ifs with h <;> simp [h]

theorem stable_raw (levels : Nat) : Stable (Decoder.raw levels) := by
  intro document kept h
  obtain ⟨husable, rfl⟩ := raw_eq_ok.1 h
  exact raw_eq_ok.2 ⟨usable_canonical husable, canonical_canonical document⟩

theorem Stable.nullable (h : Stable decode) : Stable (Decoder.nullable decode) := by
  intro document a ha
  by_cases hnull : document = .null
  · rw [hnull] at ha ⊢
    exact ha
  · rw [nullable_of_ne_null _ hnull] at ha
    rw [nullable_of_ne_null _ (mt canonical_eq_null.1 hnull)]
    exact h.map some _ _ ha

theorem exists_of_list {items : List α} (h : Decoder.list decode document = .ok items) {a : α}
    (hmem : a ∈ items) : ∃ original, decode original = .ok a := by
  cases document with
  | array originals =>
      obtain ⟨original, -, hread⟩ := exists_of_mem_right (mapM_eq_ok.1 h) hmem
      exact ⟨original, hread⟩
  | _ => cases h

theorem Stable.list (h : Stable decode) : Stable (Decoder.list decode) := by
  intro document a ha
  cases document with
  | array items =>
      change items.mapM decode = .ok a at ha
      change (canonicalItems items).mapM decode = .ok a
      rw [mapM_eq_ok] at ha ⊢
      rw [canonicalItems_eq_map, List.forall₂_map_left_iff]
      exact ha.imp h
  | _ => cases ha

theorem stable_names : Stable Decoder.names :=
  stable_text.list.map _

/-- The entry of a map that a member is read as. -/
def ReadAs (decode : Decoder α) (member : String × Json) (entry : String × α) : Prop :=
  member.1 = entry.1 ∧ decode member.2 = .ok entry.2

theorem dict_object_eq_ok {d : Dict α} :
    Decoder.dict decode (.object members) = .ok d ↔
      ∃ entries, List.Forall₂ (ReadAs decode) members entries ∧ Dict.ofList entries = d := by
  have hentry : ∀ {member : String × Json} {entry : String × α},
      (do return (member.1, ← decode member.2) : Except DecodeError (String × α)) = .ok entry ↔
        ReadAs decode member entry := by
    intro member entry
    rw [bind_pure_eq_ok]
    constructor
    · rintro ⟨a, ha, rfl⟩
      exact ⟨rfl, ha⟩
    · rintro ⟨hkey, ha⟩
      exact ⟨entry.2, ha, Prod.ext hkey rfl⟩
  change (members.mapM (fun member => do return (member.1, ← decode member.2)) >>=
    fun entries => pure (Dict.ofList entries)) = .ok d ↔ _
  rw [bind_pure_eq_ok]
  exact exists_congr fun entries => and_congr_left' (mapM_eq_ok.trans
    ⟨fun h => h.imp fun _ _ => hentry.1, fun h => h.imp fun _ _ => hentry.2⟩)

theorem lookup_of_forall₂ {entries : List (String × α)}
    (h : List.Forall₂ (ReadAs decode) members entries) (key : String) (a : α) :
    entries.lookup key = some a ↔
      ∃ document, members.lookup key = some document ∧ decode document = .ok a := by
  induction h with
  | nil => simp
  | @cons member entry members entries hentry _ ih =>
      obtain ⟨hkey, hread⟩ := hentry
      rw [Dict.lookup_cons_eq, Dict.lookup_cons_eq, hkey]
      split_ifs
      · simp [hread]
      · exact ih

/-- A map is read when each of its members is. -/
theorem exists_dict_iff :
    (∃ d, Decoder.dict decode (.object members) = .ok d) ↔
      ∀ member ∈ members, ∃ a, decode member.2 = .ok a := by
  have hentry : ∀ member, (∃ entry, ReadAs decode member entry) ↔
      ∃ a, decode member.2 = .ok a := by
    intro member
    constructor
    · rintro ⟨entry, -, hread⟩
      exact ⟨entry.2, hread⟩
    · rintro ⟨a, ha⟩
      exact ⟨(member.1, a), rfl, ha⟩
  simp only [dict_object_eq_ok, ← hentry, ← exists_forall₂_iff]
  constructor
  · rintro ⟨d, entries, h, -⟩
    exact ⟨entries, h⟩
  · rintro ⟨entries, h⟩
    exact ⟨_, entries, h, rfl⟩

/-- A map holds, at each key, what the last member of the key is read as. -/
theorem get?_of_dict {d : Dict α} (h : Decoder.dict decode (.object members) = .ok d)
    (key : String) (a : α) :
    d.get? key = some a ↔
      ∃ document, lastMember? key members = some document ∧ decode document = .ok a := by
  obtain ⟨entries, hentries, rfl⟩ := dict_object_eq_ok.1 h
  rw [Dict.get?_ofList, lastMember?_eq_lookup]
  exact lookup_of_forall₂ (List.forall₂_reverse_iff.2 hentries) key a

theorem dict_eq_ok {d : Dict α} :
    Decoder.dict decode (.object members) = .ok d ↔
      (∀ member ∈ members, ∃ a, decode member.2 = .ok a) ∧
        ∀ key a, d.get? key = some a ↔
          ∃ document, lastMember? key members = some document ∧ decode document = .ok a := by
  constructor
  · intro h
    exact ⟨exists_dict_iff.1 ⟨d, h⟩, get?_of_dict h⟩
  · rintro ⟨hall, hd⟩
    obtain ⟨e, he⟩ := exists_dict_iff.2 hall
    obtain rfl : e = d := Dict.ext_get? fun key => Option.ext fun a => by
      rw [get?_of_dict he, hd]
    exact he

theorem exists_of_dict {d : Dict α} (h : Decoder.dict decode document = .ok d)
    {entry : String × α} (hmem : entry ∈ d.toList) : ∃ original, decode original = .ok entry.2 := by
  cases document with
  | object members =>
      obtain ⟨original, -, hread⟩ := ((dict_eq_ok.1 h).2 _ _).1 (Dict.get?_eq_some_iff.2 hmem)
      exact ⟨original, hread⟩
  | _ => cases h

theorem Stable.dict (h : Stable decode) : Stable (Decoder.dict decode) := by
  intro document d hd
  cases document with
  | object members =>
      obtain ⟨hall, hget⟩ := dict_eq_ok.1 hd
      refine dict_eq_ok.2 ⟨fun member hmem => ?_, fun key a => ?_⟩
      · obtain ⟨original, hlast, hmember⟩ := mem_sortedMembers_iff.1 hmem
        obtain ⟨a, ha⟩ := hall _ (mem_of_lastMember? hlast)
        exact ⟨a, hmember ▸ h _ _ ha⟩
      · change _ ↔ ∃ document, lastMember? key (sortedMembers members) = some document ∧ _
        rw [hget, lastMember?_sortedMembers]
        cases hlast : lastMember? key members with
        | none => simp
        | some original =>
            -- the member is read as something, so it is read as the same in canonical form
            obtain ⟨b, hb⟩ := hall _ (mem_of_lastMember? hlast)
            simp [hb, h _ _ hb]
  | _ => cases hd

/-! ### Fields -/

/-- What is read of the members is read of the changed members. -/
def StableUnder (change : List (String × Json) → List (String × Json))
    (x : List (String × Json) → Except DecodeError α) : Prop :=
  ∀ members a, x members = .ok a → x (change members) = .ok a

variable {change : List (String × Json) → List (String × Json)}
  {x : List (String × Json) → Except DecodeError α}

theorem StableUnder.pure (a : α) : StableUnder change fun _ => pure a :=
  fun _ _ h => h

theorem StableUnder.bind {f : α → List (String × Json) → Except DecodeError β}
    (hx : StableUnder change x) (hf : ∀ a, StableUnder change (f a)) :
    StableUnder change fun members => x members >>= fun a => f a members := by
  intro members b h
  obtain ⟨a, ha, hb⟩ := bind_eq_ok.1 h
  exact bind_ok (hx _ _ ha) (hf a _ _ hb)

theorem field?_of_single {value : Option α} (h : valuesAt key members = [document])
    (hvalue : Decoder.nullable decode document = .ok value) :
    field? members key decode = .ok value := by
  rw [field?, h]
  exact bind_ok (mapM_eq_ok.2 (.cons hvalue .nil)) rfl

theorem field?_of_nil (h : valuesAt key members = []) : field? members key decode = .ok none := by
  rw [field?, h]
  rfl

theorem Stable.field? (h : Stable decode) (key : String) :
    StableUnder sortedMembers fun members => field? members key decode := by
  intro members value hvalue
  have hsorted := valuesAt_sortedMembers key members
  rcases field?_eq_last hvalue with ⟨hlast, rfl⟩ | ⟨document, hlast, hread⟩
  · rw [hlast] at hsorted
    exact field?_of_nil hsorted
  · rw [hlast] at hsorted
    exact field?_of_single hsorted (h.nullable _ _ hread)

theorem Stable.fieldD (h : Stable decode) (key : String) (default : α) :
    StableUnder sortedMembers fun members => fieldD members key decode default :=
  (h.field? key).bind fun _ => .pure _

/-- A type is declared by its name alone. -/
theorem declares_eq_ok {expected : String} :
    declares members key expected = .ok () ↔
      ∀ document ∈ valuesAt key members, document = .string expected := by
  have hone : ∀ document : Json, (do
      let found ← Decoder.text document
      if found = expected then .ok () else .error (.unknown found) : Except DecodeError Unit) =
        .ok () ↔ document = .string expected := by
    intro document
    cases document with
    | string s =>
        change (if s = expected then .ok () else .error _ : Except DecodeError Unit) = .ok () ↔ _
        split_ifs with h <;> simp [h]
    | _ => simp [Decoder.text, Decoder.mismatch, bind, Except.bind]
  rw [declares]
  induction valuesAt key members with
  | nil => simp [pure, Except.pure]
  | cons document rest ih =>
      rw [List.forM, bind_eq_ok, List.forall_mem_cons]
      constructor
      · rintro ⟨_, hdocument, hrest⟩
        exact ⟨(hone document).1 hdocument, ih.1 hrest⟩
      · rintro ⟨hdocument, hrest⟩
        exact ⟨(), (hone document).2 hdocument, ih.2 hrest⟩

theorem stable_declares (key expected : String) :
    StableUnder sortedMembers fun members => declares members key expected := by
  intro members _ h
  refine declares_eq_ok.2 fun document hmem => ?_
  rw [valuesAt_sortedMembers] at hmem
  obtain ⟨original, hlast, rfl⟩ := Option.map_eq_some_iff.1 (Option.mem_toList.1 hmem)
  rw [← getLast?_valuesAt] at hlast
  rw [declares_eq_ok.1 h original (List.mem_of_getLast? hlast)]
  rfl

/-- Reading an object of a resource. -/
theorem StableUnder.object (hx : StableUnder sortedMembers x) (name : String) :
    Stable fun document => Decoder.members name document >>= x := by
  intro document a h
  obtain ⟨members, hmembers, ha⟩ := bind_eq_ok.1 h
  obtain rfl := members_eq_ok.1 hmembers
  exact bind_ok (members_eq_ok.2 rfl) (hx _ _ ha)

/-! ### Records -/

theorem onlyMember_sortedMembers {field : String} {found : List (String × Json)}
    (h : onlyMember members field = .ok found) :
    onlyMember (sortedMembers members) field = .ok (canonicalMembers found) := by
  rw [onlyMember] at h
  rw [onlyMember, valuesAt_sortedMembers, ← getLast?_valuesAt]
  split at h
  · next hvalues =>
    cases h
    rw [hvalues]
    rfl
  · next hvalues =>
    cases h
    rw [hvalues]
    rfl
  · cases h

theorem canonicalMembers_flatten (parts : List (List (String × Json))) :
    (parts.map canonicalMembers).flatten = canonicalMembers parts.flatten := by
  rw [funext canonicalMembers_eq_map, List.map_flatten]

/-- The fields of a record have the same values in canonical form. -/
theorem recordFields_canonical {name : String} {fields : List String}
    (h : recordFields name fields document = .ok members) :
    recordFields name fields document.canonical = .ok (canonicalMembers members) := by
  cases document with
  | object given =>
      obtain ⟨parts, hparts, rfl⟩ := map_eq_ok.1 h
      have hcanonical : fields.mapM (onlyMember (sortedMembers given)) =
          .ok (parts.map canonicalMembers) := by
        rw [mapM_eq_ok, List.forall₂_map_right_iff]
        exact (mapM_eq_ok.1 hparts).imp fun _ _ => onlyMember_sortedMembers
      exact map_eq_ok.2 ⟨_, hcanonical, canonicalMembers_flatten parts⟩
  | array items =>
      rw [recordFields] at h
      rw [canonical, recordFields, canonicalItems_eq_map, List.length_map]
      split at h
      · next hlength =>
        cases h
        rw [if_pos hlength, canonicalMembers_eq_map, List.zip_map_right]
        rfl
      · cases h
  | _ => cases h

theorem lookup_canonicalMembers (key : String) (members : List (String × Json)) :
    (canonicalMembers members).lookup key = (members.lookup key).map canonical := by
  induction members with
  | nil => rfl
  | cons member rest ih =>
      rw [canonicalMembers, Dict.lookup_cons_eq, Dict.lookup_cons_eq, ih]
      split_ifs <;> rfl

theorem Stable.required (h : Stable decode) (key : String) :
    StableUnder canonicalMembers fun fields => required fields key decode := by
  intro fields a ha
  dsimp only [Json.required] at ha ⊢
  rw [lookup_canonicalMembers]
  cases hlookup : fields.lookup key with
  | none => simp [hlookup] at ha
  | some document =>
      rw [hlookup] at ha
      exact h _ _ ha

theorem Stable.defaulted (h : Stable decode) (key : String) (default : α) :
    StableUnder canonicalMembers fun fields => defaulted fields key decode default := by
  intro fields a ha
  dsimp only [Json.defaulted] at ha ⊢
  rw [lookup_canonicalMembers]
  cases hlookup : fields.lookup key with
  | none =>
      rw [hlookup] at ha
      exact ha
  | some document =>
      rw [hlookup] at ha
      exact h _ _ ha

/-- Reading a record. -/
theorem StableUnder.record (hx : StableUnder canonicalMembers x) (name : String)
    (fields : List String) : Stable fun document => recordFields name fields document >>= x := by
  intro document a h
  obtain ⟨found, hfound, ha⟩ := bind_eq_ok.1 h
  exact bind_ok (recordFields_canonical hfound) (hx _ _ ha)

end ScaleMetrics.Json
