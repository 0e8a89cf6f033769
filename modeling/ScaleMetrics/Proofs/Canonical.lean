import ScaleMetrics.Proofs.Written

/-!
# Proofs — Canonical

The canonical form of a document.  An object of it holds the last member of each key
(`mem_sortedMembers_iff`), and it is its own canonical form (`canonical_canonical`).
-/

namespace ScaleMetrics.Json

variable {key : String} {members : List (String × Json)} {document : Json}

/-! ### Canonical members -/

/-- The members of a canonical object. -/
def sortedMembers (members : List (String × Json)) : List (String × Json) :=
  sortMembers (canonicalMembers members)

theorem canonicalItems_eq_map (items : List Json) : canonicalItems items = items.map canonical := by
  induction items with
  | nil => rfl
  | cons item rest ih => rw [canonicalItems, List.map_cons, ih]

theorem lastMember?_sortedMembers (key : String) (members : List (String × Json)) :
    lastMember? key (sortedMembers members) = (lastMember? key members).map canonical := by
  rw [sortedMembers, lastMember?_sortMembers, lastMember?_canonicalMembers]

theorem nodup_keys_sortedMembers (members : List (String × Json)) :
    ((sortedMembers members).map (·.1)).Nodup := by
  rw [sortedMembers, sortMembers_eq_toList]
  exact Dict.nodup_keys _

theorem lastMember?_eq_some_iff (h : (members.map (·.1)).Nodup) :
    lastMember? key members = some document ↔ (key, document) ∈ members := by
  rw [lastMember?_eq_get?, Dict.get?_ofList_of_nodup h]

theorem mem_of_lastMember? (h : lastMember? key members = some document) :
    (key, document) ∈ members := by
  obtain ⟨member, hfind, rfl⟩ := Option.map_eq_some_iff.1 h
  have hkey := List.find?_some hfind
  rw [← beq_iff_eq.1 hkey]
  exact List.mem_reverse.1 (List.mem_of_find?_eq_some hfind)

theorem not_mem_keys_of_lastMember? (h : lastMember? key members = none) :
    key ∉ members.map (·.1) := by
  intro hkey
  obtain ⟨member, hmem, rfl⟩ := List.mem_map.1 hkey
  have hvalue : member.2 ∈ valuesAt member.1 members :=
    List.mem_filterMap.2 ⟨member, hmem, if_pos rfl⟩
  rw [← getLast?_valuesAt, List.getLast?_eq_none_iff] at h
  rw [h] at hvalue
  exact List.not_mem_nil hvalue

theorem mem_sortedMembers_iff :
    (key, document) ∈ sortedMembers members ↔
      ∃ d, lastMember? key members = some d ∧ d.canonical = document := by
  rw [← lastMember?_eq_some_iff (nodup_keys_sortedMembers members), lastMember?_sortedMembers,
    Option.map_eq_some_iff]

theorem valuesAt_of_nodup (h : (members.map (·.1)).Nodup) :
    valuesAt key members = (lastMember? key members).toList := by
  cases hlast : lastMember? key members with
  | none =>
      rw [← getLast?_valuesAt, List.getLast?_eq_none_iff] at hlast
      exact hlast
  | some document => exact valuesAt_of_mem h (mem_of_lastMember? hlast)

theorem valuesAt_sortedMembers (key : String) (members : List (String × Json)) :
    valuesAt key (sortedMembers members) = ((lastMember? key members).map canonical).toList := by
  rw [valuesAt_of_nodup (nodup_keys_sortedMembers members), lastMember?_sortedMembers]

theorem lookup_sortedMembers (key : String) (members : List (String × Json)) :
    (sortedMembers members).lookup key = (lastMember? key members).map canonical := by
  rw [← lastMember?_sortedMembers, lastMember?_eq_get?, sortedMembers, sortMembers_eq_toList,
    Dict.ofList_toList]
  rfl

theorem valuesAt_sortedMembers_of_single (h : valuesAt key members = [document]) :
    valuesAt key (sortedMembers members) = [document.canonical] := by
  rw [valuesAt_sortedMembers, ← getLast?_valuesAt, h]
  rfl

/-! ### Members that are left out -/

theorem sortMembers_filter (test : String → Bool) (members : List (String × Json)) :
    (sortMembers members).filter (fun member => test member.1) =
      sortMembers (members.filter fun member => test member.1) := by
  -- sorted members are those of a map, and maps are equal when all look-ups are
  have hmaps : (Dict.ofList members).filterKeys test =
      Dict.ofList (members.filter fun member => test member.1) := by
    refine Dict.ext_get? fun key => ?_
    rw [Dict.get?_filterKeys, Dict.get?_ofList, Dict.get?_ofList, ← List.filter_reverse,
      Dict.lookup_filter]
  rw [sortMembers_eq_toList, sortMembers_eq_toList, ← hmaps]
  rfl

/-- Members may be left out before they are sorted or after. -/
theorem sortedMembers_filter (test : String → Bool) (members : List (String × Json)) :
    (sortedMembers members).filter (fun member => test member.1) =
      sortedMembers (members.filter fun member => test member.1) := by
  rw [sortedMembers, sortMembers_filter, sortedMembers, canonicalMembers_eq_map,
    canonicalMembers_eq_map, List.filter_map]
  rfl

/-! ### The canonical form twice -/

theorem canonicalMembers_eq_self_iff :
    canonicalMembers members = members ↔
      ∀ member ∈ members, member.2.canonical = member.2 := by
  induction members with
  | nil => simp [canonicalMembers]
  | cons member rest ih =>
      rw [canonicalMembers, List.cons.injEq, List.forall_mem_cons, ih, Prod.ext_iff]
      simp

theorem sortMembers_sortMembers (members : List (String × Json)) :
    sortMembers (sortMembers members) = sortMembers members := by
  rw [sortMembers_eq_toList (sortMembers members), sortMembers_eq_toList, Dict.ofList_toList]

theorem mem_of_mem_sortMembers {member : String × Json} (h : member ∈ sortMembers members) :
    member ∈ members := by
  rw [sortMembers_eq_toList] at h
  have hget : (Dict.ofList members).get? member.1 = some member.2 := Dict.get?_eq_some_iff.2 h
  rw [← lastMember?_eq_get?] at hget
  exact mem_of_lastMember? hget

mutual

theorem canonical_canonical : ∀ document : Json, document.canonical.canonical = document.canonical
  | .array items => by
      rw [canonical, canonical, canonicalItems_canonicalItems items]
  | .object members => by
      have hfixed := canonicalMembers_eq_self_iff.1 (canonicalMembers_canonicalMembers members)
      have hsorted : canonicalMembers (sortMembers (canonicalMembers members)) =
          sortMembers (canonicalMembers members) :=
        canonicalMembers_eq_self_iff.2 fun member hmem =>
          hfixed member (mem_of_mem_sortMembers hmem)
      rw [canonical, canonical, hsorted, sortMembers_sortMembers]
  | .null => rfl
  | .bool _ => rfl
  | .number _ => rfl
  | .string _ => rfl
  | .broken => rfl

theorem canonicalItems_canonicalItems :
    ∀ items : List Json, canonicalItems (canonicalItems items) = canonicalItems items
  | [] => rfl
  | item :: rest => by
      rw [canonicalItems, canonicalItems, canonical_canonical item,
        canonicalItems_canonicalItems rest]

theorem canonicalMembers_canonicalMembers :
    ∀ members : List (String × Json),
      canonicalMembers (canonicalMembers members) = canonicalMembers members
  | [] => rfl
  | (_, value) :: rest => by
      rw [canonicalMembers, canonicalMembers, canonical_canonical value,
        canonicalMembers_canonicalMembers rest]

end

theorem sortedMembers_sortedMembers (members : List (String × Json)) :
    sortedMembers (sortedMembers members) = sortedMembers members :=
  object.inj (canonical_canonical (.object members))

end ScaleMetrics.Json
