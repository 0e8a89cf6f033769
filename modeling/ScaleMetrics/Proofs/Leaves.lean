import ScaleMetrics.Proofs.Canonical

/-!
# Proofs — Leaves

The parts of a document that are no containers (`leaves`).  `All P` says that each of them has a
property; it holds of a container when it holds of all that is in it, and the canonical form of a
document has no leaves of its own (`All.canonical`).
-/

namespace ScaleMetrics.Json

variable {α : Type} {P Q R : Json → Prop} {document : Json} {items : List Json}
  {members : List (String × Json)} {key : String}

mutual

/-- The parts of a document that are no containers, in order. -/
def leaves : Json → List Json
  | .array items => leavesOfItems items
  | .object members => leavesOfMembers members
  | leaf => [leaf]

/-- The leaves of some items. -/
def leavesOfItems : List Json → List Json
  | [] => []
  | item :: rest => item.leaves ++ leavesOfItems rest

/-- The leaves of the values of some members. -/
def leavesOfMembers : List (String × Json) → List Json
  | [] => []
  | (_, value) :: rest => value.leaves ++ leavesOfMembers rest

end

/-- Each leaf of the document has the property. -/
def All (P : Json → Prop) (document : Json) : Prop :=
  ∀ leaf ∈ document.leaves, P leaf

instance [DecidablePred P] (document : Json) : Decidable (document.All P) :=
  inferInstanceAs (Decidable (∀ leaf ∈ document.leaves, P leaf))

theorem All.imp₂ (h : ∀ leaf, P leaf → Q leaf → R leaf) (hP : document.All P)
    (hQ : document.All Q) : document.All R :=
  fun leaf hmem => h leaf (hP leaf hmem) (hQ leaf hmem)

/-! ### Containers -/

theorem leavesOfItems_eq_flatMap (items : List Json) :
    leavesOfItems items = items.flatMap leaves := by
  induction items with
  | nil => rfl
  | cons item rest ih => rw [leavesOfItems, List.flatMap_cons, ih]

theorem leavesOfMembers_eq_flatMap (members : List (String × Json)) :
    leavesOfMembers members = members.flatMap fun member => member.2.leaves := by
  induction members with
  | nil => rfl
  | cons member rest ih => rw [leavesOfMembers, List.flatMap_cons, ih]

@[simp] theorem all_array : (array items).All P ↔ ∀ item ∈ items, item.All P := by
  rw [All, leaves, leavesOfItems_eq_flatMap]
  simp only [List.mem_flatMap, All]
  exact ⟨fun h item hitem leaf hleaf => h leaf ⟨item, hitem, hleaf⟩,
    fun h leaf ⟨item, hitem, hleaf⟩ => h item hitem leaf hleaf⟩

@[simp] theorem all_object : (object members).All P ↔ ∀ member ∈ members, member.2.All P := by
  rw [All, leaves, leavesOfMembers_eq_flatMap]
  simp only [List.mem_flatMap, All]
  exact ⟨fun h member hmember leaf hleaf => h leaf ⟨member, hmember, hleaf⟩,
    fun h leaf ⟨member, hmember, hleaf⟩ => h member hmember leaf hleaf⟩

@[simp] theorem all_null : null.All P ↔ P .null :=
  List.forall_mem_singleton

@[simp] theorem all_bool (b : Bool) : (bool b).All P ↔ P (.bool b) :=
  List.forall_mem_singleton

@[simp] theorem all_number (n : Number) : (number n).All P ↔ P (.number n) :=
  List.forall_mem_singleton

@[simp] theorem all_string (s : String) : (string s).All P ↔ P (.string s) :=
  List.forall_mem_singleton

@[simp] theorem all_broken : broken.All P ↔ P .broken :=
  List.forall_mem_singleton

/-! ### Members -/

theorem All.of_mem_valuesAt (h : (object members).All P) (hmem : document ∈ valuesAt key members) :
    document.All P := by
  obtain ⟨member, hmember, hvalue⟩ := List.mem_filterMap.1 hmem
  split_ifs at hvalue
  cases hvalue
  exact all_object.1 h member hmember

theorem All.of_lastMember? (h : (object members).All P)
    (hlast : lastMember? key members = some document) : document.All P :=
  all_object.1 h _ (mem_of_lastMember? hlast)

theorem All.of_lookup (h : (object members).All P) (hlookup : members.lookup key = some document) :
    document.All P := by
  obtain ⟨before, after, rfl, -⟩ := List.lookup_eq_some_iff.1 hlookup
  exact all_object.1 h (key, document) (by simp)

/-- The fields of a record are parts of the document. -/
theorem All.recordFields {name : String} {fields : List String} (h : document.All P)
    (hfields : recordFields name fields document = .ok members) : (object members).All P := by
  refine all_object.2 fun member hmember => ?_
  cases document with
  | object given =>
      obtain ⟨parts, hparts, rfl⟩ := map_eq_ok.1 hfields
      obtain ⟨part, hpart, hmem⟩ := List.mem_flatten.1 hmember
      obtain ⟨field, -, hfield⟩ := exists_of_mem_right (mapM_eq_ok.1 hparts) hpart
      rw [onlyMember] at hfield
      split at hfield
      · cases hfield
        cases hmem
      · next value hvalues =>
        cases hfield
        rw [List.mem_singleton.1 hmem]
        exact h.of_mem_valuesAt (hvalues ▸ List.mem_singleton_self value)
      · cases hfield
  | array items =>
      rw [Json.recordFields] at hfields
      split at hfields
      · cases hfields
        exact all_array.1 h _ (List.of_mem_zip hmember).2
      · cases hfields
  | _ => cases hfields

/-! ### The canonical form -/

mutual

theorem All.canonical : ∀ {document : Json}, document.All P → document.canonical.All P
  | .array _, h => all_array.2 (all_canonicalItems (all_array.1 h))
  | .object _, h => all_object.2 fun member hmem =>
      all_canonicalMembers (all_object.1 h) member (mem_of_mem_sortMembers hmem)
  | .null, h => h
  | .bool _, h => h
  | .number _, h => h
  | .string _, h => h
  | .broken, h => h

theorem all_canonicalItems : ∀ {items : List Json}, (∀ item ∈ items, item.All P) →
    ∀ item ∈ canonicalItems items, item.All P
  | [], _ => List.forall_mem_nil _
  | _ :: _, h => by
      obtain ⟨hitem, hrest⟩ := List.forall_mem_cons.1 h
      exact List.forall_mem_cons.2 ⟨hitem.canonical, all_canonicalItems hrest⟩

theorem all_canonicalMembers : ∀ {members : List (String × Json)},
    (∀ member ∈ members, member.2.All P) → ∀ member ∈ canonicalMembers members, member.2.All P
  | [], _ => List.forall_mem_nil _
  | _ :: _, h => by
      obtain ⟨hvalue, hrest⟩ := List.forall_mem_cons.1 h
      exact List.forall_mem_cons.2 ⟨hvalue.canonical, all_canonicalMembers hrest⟩

end

/-! ### What is written -/

theorem all_present {fields : List (String × Option Json)}
    (h : ∀ field ∈ fields, ∀ value ∈ field.2, value.All P) :
    ∀ member ∈ present fields, member.2.All P := by
  intro member hmem
  obtain ⟨⟨key, value⟩, hfield, hmember⟩ := List.mem_filterMap.1 hmem
  obtain ⟨document, hvalue, rfl⟩ := Option.map_eq_some_iff.1 hmember
  exact h _ hfield document hvalue

theorem all_record {fields : List (String × Option Json)}
    (h : ∀ field ∈ fields, ∀ value ∈ field.2, value.All P) : (record fields).All P :=
  all_object.2 (all_present h)

theorem all_append {xs ys : List (String × Json)} (hxs : ∀ member ∈ xs, member.2.All P)
    (hys : ∀ member ∈ ys, member.2.All P) : (object (xs ++ ys)).All P :=
  all_object.2 fun member hmem => (List.mem_append.1 hmem).elim (hxs member) (hys member)

theorem all_ofList {encode : α → Json} {items : List α} (h : ∀ a ∈ items, (encode a).All P) :
    (ofList encode items).All P :=
  all_array.2 (List.forall_mem_map.2 h)

theorem all_ofList_nil {encode : α → Json} : (ofList encode []).All P :=
  all_ofList (List.forall_mem_nil _)

theorem all_ofDict {encode : α → Json} {d : Dict α}
    (h : ∀ entry ∈ d.toList, (encode entry.2).All P) : (ofDict encode d).All P :=
  all_object.2 (List.forall_mem_map.2 h)

end ScaleMetrics.Json
