/-!
# Dict

Finite maps from texts, as entries in the order of their keys (`Dict`), and finite sets of texts,
in order (`Names`).  The order belongs to the type, so a map or set has one representation:
two maps with the same look-ups are equal (`Dict.ext_get?`), and two sets with the same members
are equal (`Names.ext_mem`).  A look-up finds the entries (`Dict.get?_eq_some_iff`), and of the
entries that a map is made of the last with a key counts (`Dict.get?_ofList`).  Made again from its
list, a map or a set is the same (`Dict.ofList_toList`, `Names.ofList_toList`).  The union of two
has what either has (`Dict.get?_union`, `Names.mem_union`).
-/

namespace ScaleMetrics

/-! ### Order of texts -/

theorem lt_of_not_lt_of_ne {a b : String} (h : ¬ a < b) (hne : a ≠ b) : b < a :=
  Std.lt_of_le_of_ne (String.not_lt.1 h) (Ne.symm hne)

/-! ### Maps -/

/-- A finite map from texts, its entries in the order of their keys. -/
structure Dict (α : Type) where
  entries : List (String × α)
  sorted : entries.Pairwise fun a b => a.1 < b.1
  deriving Repr, DecidableEq

namespace Dict

variable {α : Type}

/-- The map without entries. -/
def empty : Dict α :=
  ⟨[], .nil⟩

instance : Inhabited (Dict α) := ⟨empty⟩

instance : EmptyCollection (Dict α) := ⟨empty⟩

/-- Puts an entry in its place; an entry of the same key gives way. -/
def insertEntry (key : String) (value : α) : List (String × α) → List (String × α)
  | [] => [(key, value)]
  | (k, v) :: rest =>
    if key < k then (key, value) :: (k, v) :: rest
    else if key = k then (key, value) :: rest
    else (k, v) :: insertEntry key value rest

theorem mem_insertEntry {key : String} {value : α} {entry : String × α}
    {entries : List (String × α)} (h : entry ∈ insertEntry key value entries) :
    entry = (key, value) ∨ entry ∈ entries := by
  induction entries with
  | nil => exact .inl (by simpa [insertEntry] using h)
  | cons head rest ih =>
    obtain ⟨k, v⟩ := head
    rw [insertEntry] at h
    split at h
    · simpa using h
    · split at h
      · rcases List.mem_cons.1 h with h | h
        · exact .inl h
        · exact .inr (List.mem_cons_of_mem _ h)
      · rcases List.mem_cons.1 h with h | h
        · exact .inr (h ▸ List.mem_cons_self)
        · exact (ih h).imp_right (List.mem_cons_of_mem _)

theorem pairwise_insertEntry (key : String) (value : α) {entries : List (String × α)}
    (h : entries.Pairwise fun a b => a.1 < b.1) :
    (insertEntry key value entries).Pairwise fun a b => a.1 < b.1 := by
  induction entries with
  | nil => simp [insertEntry]
  | cons head rest ih =>
    obtain ⟨k, v⟩ := head
    rw [List.pairwise_cons] at h
    rw [insertEntry]
    split
    · next hlt =>
      refine List.pairwise_cons.2 ⟨fun entry hmem => ?_, List.pairwise_cons.2 h⟩
      rcases List.mem_cons.1 hmem with rfl | hmem
      · exact hlt
      · exact String.lt_trans hlt (h.1 _ hmem)
    · next hlt =>
      split
      · next heq => exact List.pairwise_cons.2 ⟨fun entry hmem => heq ▸ h.1 _ hmem, h.2⟩
      · next hne =>
        refine List.pairwise_cons.2 ⟨fun entry hmem => ?_, ih h.2⟩
        rcases mem_insertEntry hmem with rfl | hmem
        · exact lt_of_not_lt_of_ne hlt hne
        · exact h.1 _ hmem

/-- The map with one more entry; an entry of the same key gives way. -/
def insert (d : Dict α) (key : String) (value : α) : Dict α :=
  ⟨insertEntry key value d.entries, pairwise_insertEntry key value d.sorted⟩

/-- The map of a list of entries; of entries with one key the last counts. -/
def ofList (entries : List (String × α)) : Dict α :=
  entries.foldl (fun d (key, value) => d.insert key value) empty

/-- The entries in order. -/
def toList (d : Dict α) : List (String × α) :=
  d.entries

/-- The value at a key. -/
def get? (d : Dict α) (key : String) : Option α :=
  d.entries.lookup key

/-- The values in the order of their keys. -/
def values (d : Dict α) : List α :=
  d.entries.map (·.2)

/-- The keys in order. -/
def keys (d : Dict α) : List String :=
  d.entries.map (·.1)

/-- The number of entries. -/
def size (d : Dict α) : Nat :=
  d.entries.length

/-- There is no entry. -/
def isEmpty (d : Dict α) : Bool :=
  d.entries.isEmpty

/-- The entries whose key passes the test. -/
def filterKeys (d : Dict α) (test : String → Bool) : Dict α :=
  ⟨d.entries.filter fun entry => test entry.1, d.sorted.filter _⟩

theorem lookup_cons_eq (k : String) (entry : String × α) (entries : List (String × α)) :
    (entry :: entries).lookup k = if k = entry.1 then some entry.2 else entries.lookup k := by
  obtain ⟨k', v'⟩ := entry
  rw [List.lookup_cons]
  by_cases h : k = k'
  · simp [h]
  · rw [beq_eq_false_iff_ne.2 h, if_neg h]

theorem lookup_insertEntry (key : String) (value : α) (entries : List (String × α)) (k : String) :
    (insertEntry key value entries).lookup k =
      if k = key then some value else entries.lookup k := by
  induction entries with
  | nil => rw [insertEntry, lookup_cons_eq]
  | cons head rest ih =>
    rw [insertEntry]
    split
    · rw [lookup_cons_eq]
    · split
      · next h => rw [lookup_cons_eq, lookup_cons_eq, ← h]; grind
      · next h => rw [lookup_cons_eq, lookup_cons_eq, ih]; grind

@[simp] theorem get?_empty (k : String) : (empty : Dict α).get? k = none := rfl

theorem get?_insert (d : Dict α) (key : String) (value : α) (k : String) :
    (d.insert key value).get? k = if k = key then some value else d.get? k :=
  lookup_insertEntry key value d.entries k

theorem lookup_filter (entries : List (String × α)) (test : String → Bool) (k : String) :
    (entries.filter fun entry => test entry.1).lookup k =
      if test k then entries.lookup k else none := by
  induction entries with
  | nil => simp
  | cons head rest ih =>
    rw [List.filter_cons, lookup_cons_eq]
    by_cases hk : k = head.1
    · subst hk
      by_cases htest : test head.1 = true
      · rw [if_pos htest, if_pos htest, lookup_cons_eq, if_pos rfl, if_pos rfl]
      · rw [if_neg htest, if_neg htest, ih, if_neg htest]
    · rw [if_neg hk, ← ih]
      split
      · rw [lookup_cons_eq, if_neg hk]
      · rfl

theorem get?_filterKeys (d : Dict α) (test : String → Bool) (k : String) :
    (d.filterKeys test).get? k = if test k then d.get? k else none :=
  lookup_filter d.entries test k

theorem lookup_eq_none_of_lt {entries : List (String × α)} {k : String}
    (h : ∀ entry ∈ entries, k < entry.1) : entries.lookup k = none := by
  induction entries with
  | nil => rfl
  | cons head rest ih =>
    have hne : k ≠ head.1 := fun e => String.lt_irrefl _ (e ▸ h head List.mem_cons_self)
    rw [lookup_cons_eq, if_neg hne]
    exact ih fun entry hmem => h entry (List.mem_cons_of_mem _ hmem)

theorem eq_of_lookup_eq {xs ys : List (String × α)}
    (hx : xs.Pairwise fun a b => a.1 < b.1) (hy : ys.Pairwise fun a b => a.1 < b.1)
    (h : ∀ k, xs.lookup k = ys.lookup k) : xs = ys := by
  induction xs generalizing ys with
  | nil =>
    cases ys with
    | nil => rfl
    | cons y ys => simpa [lookup_cons_eq] using h y.1
  | cons x xs ih =>
    cases ys with
    | nil => simpa [lookup_cons_eq] using h x.1
    | cons y ys =>
      rw [List.pairwise_cons] at hx hy
      have hkey : x.1 = y.1 := by
        by_cases hlt : x.1 < y.1
        · have hnone : (y :: ys).lookup x.1 = none := lookup_eq_none_of_lt fun entry hmem => by
            rcases List.mem_cons.1 hmem with rfl | hmem
            · exact hlt
            · exact String.lt_trans hlt (hy.1 _ hmem)
          have hsame := h x.1
          rw [hnone, lookup_cons_eq, if_pos rfl] at hsame
          cases hsame
        · by_cases heq : x.1 = y.1
          · exact heq
          · have hgt := lt_of_not_lt_of_ne hlt heq
            have hnone : (x :: xs).lookup y.1 = none := lookup_eq_none_of_lt fun entry hmem => by
              rcases List.mem_cons.1 hmem with rfl | hmem
              · exact hgt
              · exact String.lt_trans hgt (hx.1 _ hmem)
            have hsame := h y.1
            rw [hnone, lookup_cons_eq, if_pos rfl] at hsame
            cases hsame
      have hvalue : x.2 = y.2 := by
        have := h x.1
        simpa [lookup_cons_eq, hkey] using this
      have hrest : xs = ys := by
        refine ih hx.2 hy.2 fun k => ?_
        by_cases hk : k = x.1
        · subst hk
          rw [lookup_eq_none_of_lt hx.1, lookup_eq_none_of_lt fun e he => hkey ▸ hy.1 e he]
        · have := h k
          rwa [lookup_cons_eq, lookup_cons_eq, if_neg hk, if_neg (hkey ▸ hk)] at this
      rw [hrest, Prod.ext hkey hvalue]

theorem nodup_keys (d : Dict α) : d.keys.Nodup := by
  refine List.pairwise_map.2 (d.sorted.imp fun h e => ?_)
  exact String.lt_irrefl _ (e ▸ h)

theorem lookup_eq_some_iff {entries : List (String × α)} (h : (entries.map (·.1)).Nodup)
    {k : String} {v : α} : entries.lookup k = some v ↔ (k, v) ∈ entries := by
  induction entries with
  | nil => simp
  | cons head rest ih =>
    rw [List.map_cons, List.nodup_cons] at h
    rw [lookup_cons_eq, List.mem_cons]
    split
    · next heq =>
      subst heq
      constructor
      · intro hv
        exact .inl (Prod.ext rfl (Option.some.inj hv).symm)
      · rintro (hv | hv)
        · rw [← hv]
        · exact absurd (List.mem_map_of_mem hv) h.1
    · next hne =>
      rw [ih h.2]
      exact ⟨.inr, fun hv => hv.resolve_left fun e => hne (congrArg Prod.fst e)⟩

/-- A look-up finds the entries, and nothing else. -/
theorem get?_eq_some_iff {d : Dict α} {k : String} {v : α} :
    d.get? k = some v ↔ (k, v) ∈ d.toList :=
  lookup_eq_some_iff d.nodup_keys

theorem mem_values {d : Dict α} {v : α} : v ∈ d.values ↔ ∃ k, d.get? k = some v := by
  simp [values, get?_eq_some_iff, toList]

theorem mem_keys {d : Dict α} {k : String} : k ∈ d.keys ↔ ∃ v, d.get? k = some v := by
  simp [keys, get?_eq_some_iff, toList]

@[simp] theorem length_keys (d : Dict α) : d.keys.length = d.size :=
  List.length_map _

/-- Maps with the same look-ups are equal. -/
theorem ext_get? {d e : Dict α} (h : ∀ k, d.get? k = e.get? k) : d = e := by
  obtain ⟨xs, hx⟩ := d
  obtain ⟨ys, hy⟩ := e
  obtain rfl : xs = ys := eq_of_lookup_eq hx hy h
  rfl

theorem ext {d e : Dict α} (h : d.toList = e.toList) : d = e := by
  obtain ⟨xs, hx⟩ := d
  obtain ⟨ys, hy⟩ := e
  obtain rfl : xs = ys := h
  rfl

theorem get?_foldl_insert (entries : List (String × α)) (d : Dict α) (k : String) :
    (entries.foldl (fun d (key, value) => d.insert key value) d).get? k =
      (entries.reverse.lookup k).or (d.get? k) := by
  induction entries generalizing d with
  | nil => rfl
  | cons entry rest ih =>
    rw [List.foldl_cons, ih, get?_insert, List.reverse_cons, List.lookup_append, lookup_cons_eq,
      Option.or_assoc]
    split <;> rfl

/-- Of entries with one key the last counts. -/
theorem get?_ofList (entries : List (String × α)) (k : String) :
    (ofList entries).get? k = entries.reverse.lookup k := by
  rw [ofList, get?_foldl_insert, get?_empty, Option.or_none]

/-- The map of entries whose keys are distinct has these entries. -/
theorem get?_ofList_of_nodup {entries : List (String × α)} (h : (entries.map (·.1)).Nodup)
    {k : String} {v : α} : (ofList entries).get? k = some v ↔ (k, v) ∈ entries := by
  rw [get?_ofList, lookup_eq_some_iff, List.mem_reverse]
  rw [List.map_reverse]
  exact (List.reverse_perm _).nodup_iff.2 h

theorem insertEntry_of_forall_lt {key : String} (value : α) {entries : List (String × α)}
    (h : ∀ entry ∈ entries, entry.1 < key) :
    insertEntry key value entries = entries ++ [(key, value)] := by
  induction entries with
  | nil => rfl
  | cons head rest ih =>
    have hhead := h head List.mem_cons_self
    rw [insertEntry, if_neg (String.lt_asymm hhead),
      if_neg fun e => String.lt_irrefl _ (e ▸ hhead),
      ih fun entry hmem => h entry (List.mem_cons_of_mem _ hmem)]
    rfl

/-- Entries in order that follow those of a map are appended to them. -/
theorem toList_foldl_insert {d : Dict α} {entries : List (String × α)}
    (h : (d.toList ++ entries).Pairwise fun a b => a.1 < b.1) :
    (entries.foldl (fun d (key, value) => d.insert key value) d).toList = d.toList ++ entries := by
  induction entries generalizing d with
  | nil => simp
  | cons entry rest ih =>
    have hinsert : (d.insert entry.1 entry.2).toList = d.toList ++ [entry] :=
      insertEntry_of_forall_lt _ fun e hmem =>
        (List.pairwise_append.1 h).2.2 e hmem entry List.mem_cons_self
    rw [List.foldl_cons, ih (by simpa [hinsert] using h), hinsert, List.append_assoc]
    rfl

@[simp] theorem ofList_toList (d : Dict α) : ofList d.toList = d :=
  ext <| by
    rw [ofList, toList_foldl_insert (by simpa [empty, toList] using d.sorted)]
    rfl

/-- The entries of two maps; of entries with one key that of the second counts. -/
def union (d e : Dict α) : Dict α :=
  e.toList.foldl (fun d (key, value) => d.insert key value) d

theorem get?_union (d e : Dict α) (k : String) :
    (d.union e).get? k = (e.get? k).or (d.get? k) := by
  rw [union, get?_foldl_insert, ← get?_ofList, ofList_toList]

end Dict

/-! ### Sets -/

/-- A finite set of texts, in order. -/
structure Names where
  toList : List String
  sorted : toList.Pairwise (· < ·)
  deriving Repr, DecidableEq

namespace Names

/-- The set without members. -/
def empty : Names :=
  ⟨[], .nil⟩

instance : Inhabited Names := ⟨empty⟩

instance : EmptyCollection Names := ⟨empty⟩

/-- Puts a name in its place, unless it is there. -/
def insertName (name : String) : List String → List String
  | [] => [name]
  | n :: rest =>
    if name < n then name :: n :: rest
    else if name = n then n :: rest
    else n :: insertName name rest

theorem mem_insertName_iff {name x : String} {names : List String} :
    x ∈ insertName name names ↔ x = name ∨ x ∈ names := by
  induction names with
  | nil => simp [insertName]
  | cons n rest ih =>
    rw [insertName]
    split
    · simp
    · split
      · next h => subst h; simp
      · simp only [List.mem_cons, ih]
        constructor <;> rintro (h | h | h) <;> simp [h]

theorem pairwise_insertName (name : String) {names : List String}
    (h : names.Pairwise (· < ·)) : (insertName name names).Pairwise (· < ·) := by
  induction names with
  | nil => simp [insertName]
  | cons n rest ih =>
    rw [List.pairwise_cons] at h
    rw [insertName]
    split
    · next hlt =>
      refine List.pairwise_cons.2 ⟨fun x hmem => ?_, List.pairwise_cons.2 h⟩
      rcases List.mem_cons.1 hmem with rfl | hmem
      · exact hlt
      · exact String.lt_trans hlt (h.1 _ hmem)
    · next hlt =>
      split
      · exact List.pairwise_cons.2 h
      · next hne =>
        refine List.pairwise_cons.2 ⟨fun x hmem => ?_, ih h.2⟩
        rcases mem_insertName_iff.1 hmem with rfl | hmem
        · exact lt_of_not_lt_of_ne hlt hne
        · exact h.1 _ hmem

/-- The set with one more member. -/
def insert (s : Names) (name : String) : Names :=
  ⟨insertName name s.toList, pairwise_insertName name s.sorted⟩

/-- The set of the texts of a list. -/
def ofList (names : List String) : Names :=
  names.foldl insert empty

/-- The number of members. -/
def size (s : Names) : Nat :=
  s.toList.length

/-- The text is a member. -/
def contains (s : Names) (name : String) : Bool :=
  s.toList.contains name

instance : Membership String Names := ⟨fun s name => name ∈ s.toList⟩

theorem mem_def {s : Names} {name : String} : name ∈ s ↔ name ∈ s.toList := Iff.rfl

theorem contains_iff {s : Names} {name : String} : s.contains name = true ↔ name ∈ s := by
  rw [mem_def, contains, List.contains_iff_mem]

theorem mem_insert {s : Names} {name x : String} : x ∈ s.insert name ↔ x = name ∨ x ∈ s :=
  mem_insertName_iff

theorem eq_of_mem_iff {xs ys : List String} (hx : xs.Pairwise (· < ·))
    (hy : ys.Pairwise (· < ·)) (h : ∀ n, n ∈ xs ↔ n ∈ ys) : xs = ys := by
  induction xs generalizing ys with
  | nil =>
    cases ys with
    | nil => rfl
    | cons y ys => simpa using h y
  | cons x xs ih =>
    cases ys with
    | nil => simpa using h x
    | cons y ys =>
      rw [List.pairwise_cons] at hx hy
      have hhead : x = y := by
        rcases List.mem_cons.1 ((h x).1 List.mem_cons_self) with hxy | hxy
        · exact hxy
        · rcases List.mem_cons.1 ((h y).2 List.mem_cons_self) with hyx | hyx
          · exact hyx.symm
          · exact absurd (hy.1 _ hxy) (String.lt_asymm (hx.1 _ hyx))
      subst hhead
      rw [ih hx.2 hy.2 fun n => ?_]
      constructor <;> intro hn
      · rcases List.mem_cons.1 ((h n).1 (List.mem_cons_of_mem _ hn)) with rfl | h'
        · exact absurd (hx.1 _ hn) (String.lt_irrefl _)
        · exact h'
      · rcases List.mem_cons.1 ((h n).2 (List.mem_cons_of_mem _ hn)) with rfl | h'
        · exact absurd (hy.1 _ hn) (String.lt_irrefl _)
        · exact h'

/-- Sets with the same members are equal. -/
theorem ext_mem {s t : Names} (h : ∀ name, name ∈ s ↔ name ∈ t) : s = t := by
  obtain ⟨xs, hx⟩ := s
  obtain ⟨ys, hy⟩ := t
  obtain rfl : xs = ys := eq_of_mem_iff hx hy h
  rfl

theorem mem_foldl_insert {names : List String} {s : Names} {x : String} :
    x ∈ names.foldl insert s ↔ x ∈ names ∨ x ∈ s := by
  induction names generalizing s with
  | nil => simp
  | cons name rest ih => grind [mem_insert]

theorem mem_ofList {names : List String} {x : String} : x ∈ ofList names ↔ x ∈ names := by
  rw [ofList, mem_foldl_insert]
  simp [mem_def, empty]

@[simp] theorem ofList_toList (s : Names) : ofList s.toList = s :=
  ext_mem fun _ => mem_ofList

/-- The members of two sets. -/
def union (s t : Names) : Names :=
  t.toList.foldl insert s

theorem mem_union {s t : Names} {x : String} : x ∈ s.union t ↔ x ∈ s ∨ x ∈ t :=
  mem_foldl_insert.trans or_comm

end Names

end ScaleMetrics
