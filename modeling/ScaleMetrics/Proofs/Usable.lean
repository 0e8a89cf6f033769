import ScaleMetrics.Proofs.Canonical

/-!
# Proofs — Usable

How deep documents nest.  A document that is usable at some levels is usable at more
(`usable_mono`), and so is its canonical form (`usable_canonical`).  What is written is usable at
one level more than its parts.
-/

namespace ScaleMetrics.Json

variable {α : Type} {levels : Nat} {members : List (String × Json)}

theorem usableItems_iff {items : List Json} :
    usableItems levels items = true ↔ ∀ item ∈ items, item.usable levels = true := by
  induction items with
  | nil => simp [usableItems]
  | cons item rest ih => rw [usableItems, Bool.and_eq_true, ih, List.forall_mem_cons]

theorem usableMembers_iff :
    usableMembers levels members = true ↔
      ∀ member ∈ members, member.2.usable levels = true := by
  induction members with
  | nil => simp [usableMembers]
  | cons member rest ih => rw [usableMembers, Bool.and_eq_true, ih, List.forall_mem_cons]

theorem usable_array {items : List Json} (h : ∀ item ∈ items, item.usable levels = true) :
    (array items).usable (levels + 1) = true :=
  usableItems_iff.2 h

theorem usable_object (h : ∀ member ∈ members, member.2.usable levels = true) :
    (object members).usable (levels + 1) = true :=
  usableMembers_iff.2 h

@[simp] theorem usable_null (levels : Nat) : null.usable levels = true := by
  cases levels <;> rfl

@[simp] theorem usable_bool (b : Bool) (levels : Nat) : (bool b).usable levels = true := by
  cases levels <;> rfl

@[simp] theorem usable_int (n : Int) (levels : Nat) : (int n).usable levels = true := by
  cases levels <;> rfl

@[simp] theorem usable_string (s : String) (levels : Nat) : (string s).usable levels = true := by
  cases levels <;> rfl

/-! ### More levels -/

mutual

theorem usable_mono : ∀ {document : Json} {levels levels' : Nat}, levels ≤ levels' →
    document.usable levels = true → document.usable levels' = true
  | .array items, levels + 1, levels' + 1, hle, h =>
      usableItems_mono (Nat.le_of_succ_le_succ hle) h
  | .object members, levels + 1, levels' + 1, hle, h =>
      usableMembers_mono (Nat.le_of_succ_le_succ hle) h
  | .null, _, _, _, _ => usable_null _
  | .bool _, _, _, _, _ => usable_bool _ _
  | .number n, _, levels', _, _ => by cases levels' <;> rfl
  | .string _, _, _, _, _ => usable_string _ _

theorem usableItems_mono : ∀ {items : List Json} {levels levels' : Nat}, levels ≤ levels' →
    usableItems levels items = true → usableItems levels' items = true
  | [], _, _, _, _ => rfl
  | item :: rest, _, _, hle, h => by
      rw [usableItems, Bool.and_eq_true] at h
      rw [usableItems, usable_mono hle h.1, usableItems_mono hle h.2]
      rfl

theorem usableMembers_mono : ∀ {members : List (String × Json)} {levels levels' : Nat},
    levels ≤ levels' → usableMembers levels members = true →
      usableMembers levels' members = true
  | [], _, _, _, _ => rfl
  | (_, value) :: rest, _, _, hle, h => by
      rw [usableMembers, Bool.and_eq_true] at h
      rw [usableMembers, usable_mono hle h.1, usableMembers_mono hle h.2]
      rfl

end

/-! ### The canonical form -/

mutual

theorem usable_canonical : ∀ {document : Json} {levels : Nat}, document.usable levels = true →
    document.canonical.usable levels = true
  | .array items, levels + 1, h => usableItems_canonicalItems h
  | .object members, levels + 1, h => by
      have hmembers := usableMembers_iff.1 (usableMembers_canonicalMembers h)
      exact usableMembers_iff.2 fun member hmem => hmembers member (mem_of_mem_sortMembers hmem)
  | .array _, 0, h => h
  | .object _, 0, h => by cases h
  | .null, _, h => h
  | .bool _, _, h => h
  | .number _, _, h => h
  | .string _, _, h => h

theorem usableItems_canonicalItems : ∀ {items : List Json} {levels : Nat},
    usableItems levels items = true → usableItems levels (canonicalItems items) = true
  | [], _, _ => rfl
  | item :: rest, levels, h => by
      rw [usableItems, Bool.and_eq_true] at h
      rw [canonicalItems, usableItems, usable_canonical h.1, usableItems_canonicalItems h.2]
      rfl

theorem usableMembers_canonicalMembers : ∀ {members : List (String × Json)} {levels : Nat},
    usableMembers levels members = true → usableMembers levels (canonicalMembers members) = true
  | [], _, _ => rfl
  | (key, value) :: rest, levels, h => by
      rw [usableMembers, Bool.and_eq_true] at h
      rw [canonicalMembers, usableMembers, usable_canonical h.1, usableMembers_canonicalMembers h.2]
      rfl

end

/-! ### What is written -/

theorem usable_present {fields : List (String × Option Json)}
    (h : ∀ field ∈ fields, ∀ document ∈ field.2, document.usable levels = true) :
    ∀ member ∈ present fields, member.2.usable levels = true := by
  intro member hmem
  obtain ⟨⟨key, value⟩, hfield, hmember⟩ := List.mem_filterMap.1 hmem
  obtain ⟨document, hvalue, rfl⟩ := Option.map_eq_some_iff.1 hmember
  exact h _ hfield document hvalue

theorem usable_record {fields : List (String × Option Json)}
    (h : ∀ field ∈ fields, ∀ document ∈ field.2, document.usable levels = true) :
    (record fields).usable (levels + 1) = true :=
  usable_object (usable_present h)

/-- Members in front of others. -/
theorem usable_append {xs ys : List (String × Json)}
    (hxs : ∀ member ∈ xs, member.2.usable levels = true)
    (hys : ∀ member ∈ ys, member.2.usable levels = true) :
    (object (xs ++ ys)).usable (levels + 1) = true :=
  usable_object fun member hmem => (List.mem_append.1 hmem).elim (hxs member) (hys member)

theorem usable_ofList {encode : α → Json} {items : List α}
    (h : ∀ a ∈ items, (encode a).usable levels = true) :
    (ofList encode items).usable (levels + 1) = true :=
  usable_array (List.forall_mem_map.2 h)

theorem usable_ofDict {encode : α → Json} {d : Dict α}
    (h : ∀ entry ∈ d.toList, (encode entry.2).usable levels = true) :
    (ofDict encode d).usable (levels + 1) = true :=
  usable_object (List.forall_mem_map.2 h)

theorem usable_ofNames (names : Names) (levels : Nat) :
    (ofNames names).usable (levels + 1) = true :=
  usable_array (List.forall_mem_map.2 fun s _ => usable_string s levels)

end ScaleMetrics.Json
