import ScaleMetrics.Json.Decoder

/-!
# Json — Decoder — Lemmas

What is written is read back.  Each law is about one decoder and the writer beside it: texts,
truth values, bounded integers, lists, maps and sets.  A list or a map is read back when its items
are.
-/

namespace ScaleMetrics.Json

open Decoder

variable {α : Type} {low high : Int}

@[simp] theorem text_string (s : String) : text (.string s) = .ok s := rfl

@[simp] theorem flag_bool (b : Bool) : flag (.bool b) = .ok b := rfl

@[simp] theorem bounded_ofBounded (n : Bounded low high) :
    bounded low high (ofBounded n) = .ok n := by
  simp [bounded, ofBounded, int]

@[simp] theorem signed64_ofBounded (n : Signed64) : signed64 (ofBounded n) = .ok n :=
  bounded_ofBounded n

@[simp] theorem signed32_ofBounded (n : Signed32) : signed32 (ofBounded n) = .ok n :=
  bounded_ofBounded n

/-- Items that are read back one by one are read back together. -/
theorem mapM_encode {encode : α → Json} {item : Decoder α} {items : List α}
    (h : ∀ a ∈ items, item (encode a) = .ok a) : (items.map encode).mapM item = .ok items := by
  induction items with
  | nil => rfl
  | cons a rest ih =>
    rw [List.map_cons, List.mapM_cons, h a List.mem_cons_self,
      ih fun b hb => h b (List.mem_cons_of_mem _ hb)]
    rfl

theorem list_ofList {encode : α → Json} {item : Decoder α} {items : List α}
    (h : ∀ a ∈ items, item (encode a) = .ok a) : list item (ofList encode items) = .ok items :=
  mapM_encode h

@[simp] theorem names_ofNames (s : Names) : names (ofNames s) = .ok s := by
  have h : list text (ofNames s) = .ok s.toList := list_ofList fun _ _ => rfl
  rw [names, h]
  simp [Except.map]

/-- Entries whose values are read back one by one are read back together. -/
theorem mapM_entries {encode : α → Json} {value : Decoder α} {entries : List (String × α)}
    (h : ∀ entry ∈ entries, value (encode entry.2) = .ok entry.2) :
    (entries.map fun entry => (entry.1, encode entry.2)).mapM
      (fun (key, document) => do return (key, ← value document)) =
        (.ok entries : Except DecodeError _) := by
  induction entries with
  | nil => rfl
  | cons entry rest ih =>
    rw [List.map_cons, List.mapM_cons, ih fun e he => h e (List.mem_cons_of_mem _ he)]
    simp [h entry List.mem_cons_self, bind, Except.bind, pure, Except.pure]

theorem dict_ofDict {encode : α → Json} {value : Decoder α} {d : Dict α}
    (h : ∀ entry ∈ d.toList, value (encode entry.2) = .ok entry.2) :
    dict value (ofDict encode d) = .ok d := by
  change (do
    let entries ← (d.toList.map fun entry => (entry.1, encode entry.2)).mapM
      (fun (key, document) => do return (key, ← value document))
    return Dict.ofList entries) = Except.ok d
  rw [mapM_entries h]
  simp [bind, Except.bind, pure, Except.pure]

end ScaleMetrics.Json
