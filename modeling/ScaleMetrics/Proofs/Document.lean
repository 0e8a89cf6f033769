import ScaleMetrics.Json.Decoder
import ScaleMetrics.Proofs.Outcome

/-!
# Proofs — Document

What a decoder has read of a document that it takes.

Of repeated members the last counts, in a look-up as in a map (`lastMember?_eq_get?`), so sorting
the members changes no look-up, and a look-up in the canonical form of a document is the canonical
form of that in the document (`get?_canonical`).

* `members_eq_ok`: only objects have members.
* `field?_eq_ok` and `fieldD_eq_ok`: a field of a resource is without a value, or has its default,
  when its last member is missing or null; otherwise the value is what that member is read as.
-/

namespace ScaleMetrics.Json

variable {α : Type} {key : String} {members : List (String × Json)} {document : Json}

/-! ### Look-ups -/

theorem lastMember?_eq_lookup (key : String) (members : List (String × Json)) :
    lastMember? key members = members.reverse.lookup key := by
  rw [lastMember?]
  induction members.reverse with
  | nil => rfl
  | cons member rest ih =>
      rw [List.find?_cons, Dict.lookup_cons_eq, ← ih]
      by_cases h : member.1 = key
      · simp [h]
      · rw [if_neg (Ne.symm h), beq_eq_false_iff_ne.2 h]

/-- A look-up is that in the map of the members. -/
theorem lastMember?_eq_get? (key : String) (members : List (String × Json)) :
    lastMember? key members = (Dict.ofList members).get? key := by
  rw [lastMember?_eq_lookup, Dict.get?_ofList]

theorem insertMember_eq_insertEntry (key : String) (value : Json)
    (members : List (String × Json)) :
    insertMember key value members = Dict.insertEntry key value members := by
  induction members with
  | nil => rfl
  | cons member rest ih => rw [insertMember, Dict.insertEntry, ih]

/-- Insertions into the entries of a map are insertions into the map. -/
theorem foldl_insertMember (members : List (String × Json)) (d : Dict Json) :
    members.foldl (fun sorted (k, v) => insertMember k v sorted) d.toList =
      (members.foldl (fun d (key, value) => d.insert key value) d).toList := by
  induction members generalizing d with
  | nil => rfl
  | cons member rest ih =>
      have hstep : insertMember member.1 member.2 d.toList =
          (d.insert member.1 member.2).toList := insertMember_eq_insertEntry ..
      rw [List.foldl_cons, List.foldl_cons, ← ih, ← hstep]

/-- The sorted members are the entries of their map. -/
theorem sortMembers_eq_toList (members : List (String × Json)) :
    sortMembers members = (Dict.ofList members).toList :=
  foldl_insertMember members .empty

theorem lastMember?_sortMembers (key : String) (members : List (String × Json)) :
    lastMember? key (sortMembers members) = lastMember? key members := by
  rw [lastMember?_eq_get?, lastMember?_eq_get?, sortMembers_eq_toList, Dict.ofList_toList]

theorem canonicalMembers_eq_map (members : List (String × Json)) :
    canonicalMembers members = members.map fun (key, value) => (key, value.canonical) := by
  induction members with
  | nil => rfl
  | cons member rest ih => rw [canonicalMembers, List.map_cons, ih]

theorem lastMember?_canonicalMembers (key : String) (members : List (String × Json)) :
    lastMember? key (canonicalMembers members) = (lastMember? key members).map canonical := by
  rw [lastMember?, lastMember?, canonicalMembers_eq_map, ← List.map_reverse, List.find?_map,
    Option.map_map, Option.map_map]
  rfl

theorem get?_canonical (document : Json) (key : String) :
    document.canonical.get? key = (document.get? key).map canonical := by
  cases document with
  | object members =>
      rw [canonical, get?, get?, lastMember?_sortMembers, lastMember?_canonicalMembers]
  | _ => rfl

/-- A look-up passes over the members that are left out. -/
theorem lastMember?_filter (test : String → Bool) (h : test key = true)
    (members : List (String × Json)) :
    lastMember? key (members.filter fun member => test member.1) = lastMember? key members := by
  rw [lastMember?_eq_lookup, lastMember?_eq_lookup, ← List.filter_reverse, Dict.lookup_filter,
    if_pos h]

theorem string?_canonical (document : Json) : document.canonical.string? = document.string? := by
  cases document <;> rfl

theorem canonical_eq_null : document.canonical = .null ↔ document = .null := by
  cases document <;> simp [canonical]

/-- The canonical form of an object is an object, and of nothing else. -/
theorem canonical_eq_object :
    (∃ members, document.canonical = .object members) ↔
      ∃ members, document = .object members := by
  cases document <;> simp [canonical]

/-! ### Fields -/

theorem members_eq_ok {name : String} :
    Decoder.members name document = .ok members ↔ document = .object members := by
  cases document <;> simp [Decoder.members, Decoder.mismatch]

theorem getLast?_valuesAt (key : String) (members : List (String × Json)) :
    (valuesAt key members).getLast? = lastMember? key members := by
  rw [List.getLast?_eq_head?_reverse, valuesAt, ← List.filterMap_reverse, List.head?_filterMap,
    lastMember?]
  induction members.reverse with
  | nil => rfl
  | cons member rest ih =>
      rw [List.findSome?_cons, List.find?_cons]
      by_cases h : member.1 = key
      · simp [h]
      · rw [if_neg h, beq_eq_false_iff_ne.2 h]
        exact ih

theorem nullable_of_ne_null (decode : Decoder α) (h : document ≠ .null) :
    Decoder.nullable decode document = (decode document).map some := by
  cases document with
  | null => exact absurd rfl h
  | _ => rfl

theorem nullable_eq_ok {decode : Decoder α} {value : Option α}
    (h : Decoder.nullable decode document = .ok value) :
    document = .null ∧ value = none ∨
      document ≠ .null ∧ ∃ a, decode document = .ok a ∧ some a = value := by
  by_cases hnull : document = .null
  · rw [hnull] at h
    exact .inl ⟨hnull, (Except.ok.inj h).symm⟩
  · rw [nullable_of_ne_null decode hnull] at h
    exact .inr ⟨hnull, map_eq_ok.1 h⟩

/-- A field has what the last value at its key is read as, and nothing without one. -/
theorem field?_eq_last {decode : Decoder α} {value : Option α}
    (h : field? members key decode = .ok value) :
    lastMember? key members = none ∧ value = none ∨
      ∃ document, lastMember? key members = some document ∧
        Decoder.nullable decode document = .ok value := by
  obtain ⟨values, hvalues, hlast⟩ := bind_eq_ok.1 h
  rw [← pure_eq_ok.1 hlast, ← getLast?_valuesAt]
  rcases getLast?_of_forall₂ (mapM_eq_ok.1 hvalues) with ⟨hnone, hnone'⟩ | ⟨d, found, hd, hf, hR⟩
  · rw [hnone']
    exact .inl ⟨hnone, rfl⟩
  · rw [hf]
    exact .inr ⟨d, hd, hR⟩

/-- **A field.** -/
theorem field?_eq_ok {decode : Decoder α} {value : Option α}
    (h : field? members key decode = .ok value) :
    (lastMember? key members = none ∨ lastMember? key members = some .null) ∧ value = none ∨
      ∃ document a, lastMember? key members = some document ∧ decode document = .ok a ∧
        value = some a := by
  rcases field?_eq_last h with ⟨hnone, rfl⟩ | ⟨d, hd, hread⟩
  · exact .inl ⟨.inl hnone, rfl⟩
  · rcases nullable_eq_ok hread with ⟨rfl, rfl⟩ | ⟨-, a, ha, rfl⟩
    · exact .inl ⟨.inr hd, rfl⟩
    · exact .inr ⟨d, a, hd, ha, rfl⟩

/-- A field with a default. -/
theorem fieldD_eq_ok {decode : Decoder α} {default value : α}
    (h : fieldD members key decode default = .ok value) :
    (lastMember? key members = none ∨ lastMember? key members = some .null) ∧ value = default ∨
      ∃ document, lastMember? key members = some document ∧ decode document = .ok value := by
  obtain ⟨found, hfound, hvalue⟩ := bind_eq_ok.1 h
  rw [← pure_eq_ok.1 hvalue]
  rcases field?_eq_ok hfound with ⟨hunset, rfl⟩ | ⟨d, a, hd, ha, rfl⟩
  · exact .inl ⟨hunset, rfl⟩
  · exact .inr ⟨d, hd, ha⟩

theorem exists_of_field? {decode : Decoder α} {value : Option α}
    (h : field? members key decode = .ok value) {a : α} (ha : a ∈ value) :
    ∃ document, decode document = .ok a := by
  rcases field?_eq_ok h with ⟨-, rfl⟩ | ⟨document, b, -, hread, rfl⟩
  · cases ha
  · cases ha
    exact ⟨document, hread⟩

theorem required_eq_ok {fields : List (String × Json)} {decode : Decoder α} {value : α}
    (h : required fields key decode = .ok value) :
    ∃ document, fields.lookup key = some document ∧ decode document = .ok value := by
  rw [required] at h
  split at h
  · next document hlookup => exact ⟨document, hlookup, h⟩
  · cases h

theorem exists_of_defaulted {fields : List (String × Json)} {decode : Decoder α}
    {default value : α} (h : defaulted fields key decode default = .ok value) :
    value = default ∨ ∃ document, decode document = .ok value := by
  rw [defaulted] at h
  split at h
  · next document _ => exact .inr ⟨document, h⟩
  · exact .inl (Except.ok.inj h).symm

end ScaleMetrics.Json
