import ScaleMetrics.Proofs.Resolution
import ScaleMetrics.Proofs.Selection
import ScaleMetrics.Proofs.Stability

/-!
# Proofs — StatedSelector

What a selector says does not depend on the object that states it.

A controller reads its selector with the whole of its specification, and another object only when
the selector is asked for; the other object may write a flat map of labels instead.  The object at
`spec.selector` is a label selector by its keys (`HasSelectorKey`).  It is then read when its parts
are of the right types (`WellTyped`), by a controller as by another object.

* `Recognizes`: a decoder takes the documents of a form.  There is one law for each decoder of
  values, and `exists_labelSelector_iff` says which label selectors are read.
* `flatLabels_eq_ok_iff`: a flat map is read like any map of texts.
* `selector_independent_of_kind`: the same selector resolves alike in a controller and in another
  object, and one of wrong types in neither; a flat map stands for its entries.
-/

namespace ScaleMetrics

namespace Json

variable {α : Type} {key : String} {members : List (String × Json)} {document : Json}

/-! ### Forms of documents -/

/-- A text. -/
def IsText (document : Json) : Prop :=
  ∃ s, document = .string s

/-- An array of items of a form. -/
def IsListOf (P : Json → Prop) (document : Json) : Prop :=
  ∃ items, document = .array items ∧ ∀ item ∈ items, P item

/-- An object whose members have a property. -/
def IsObjectOf (Q : List (String × Json) → Prop) (document : Json) : Prop :=
  ∃ members, document = .object members ∧ Q members

/-- The last member of each key is of a form. -/
def AllEntries (P : Json → Prop) (members : List (String × Json)) : Prop :=
  ∀ key value, lastMember? key members = some value → P value

/-- The field is missing or null, or of a form. -/
def MayHave (P : Json → Prop) (key : String) (members : List (String × Json)) : Prop :=
  ∀ value, lastMember? key members = some value → value = .null ∨ P value

/-! ### Decoders that take them -/

/-- The decoder takes the documents of the form, and no others. -/
def Recognizes (decode : Decoder α) (P : Json → Prop) : Prop :=
  ∀ document, (∃ a, decode document.canonical = .ok a) ↔ P document

variable {decode : Decoder α} {P : Json → Prop} {Q : List (String × Json) → Prop}

theorem recognizes_text : Recognizes Decoder.text IsText := by
  intro document
  cases document with
  | string s => simp [canonical, Decoder.text, IsText]
  | _ => simp [canonical, Decoder.text, Decoder.mismatch, IsText]

theorem Recognizes.list (h : Recognizes decode P) :
    Recognizes (Decoder.list decode) (IsListOf P) := by
  intro document
  cases document with
  | array items =>
      change (∃ values, (canonicalItems items).mapM decode = .ok values) ↔ _
      simp only [mapM_eq_ok, exists_forall₂_iff, canonicalItems_eq_map, List.forall_mem_map]
      simp [IsListOf, ← h _]
  | _ => simp [canonical, Decoder.list, Decoder.mismatch, IsListOf]

/-- A decoder of objects, by what it makes of sorted members. -/
theorem recognizes_object
    (hobject : ∀ members, (∃ a, decode (.object (sortedMembers members)) = .ok a) ↔ Q members)
    (hother : ∀ document a, decode document = .ok a → ∃ members, document = .object members) :
    Recognizes decode (IsObjectOf Q) := by
  intro document
  constructor
  · rintro ⟨a, ha⟩
    obtain ⟨members, rfl⟩ := canonical_eq_object.1 (hother _ _ ha)
    exact ⟨members, rfl, (hobject members).1 ⟨a, ha⟩⟩
  · rintro ⟨members, rfl, hmembers⟩
    exact (hobject members).2 hmembers

/-- The members of a canonical object are the last ones of their keys. -/
theorem Recognizes.dict_sortedMembers (h : Recognizes decode P) :
    (∃ d, Decoder.dict decode (.object (sortedMembers members)) = .ok d) ↔
      AllEntries P members := by
  rw [exists_dict_iff]
  constructor
  · intro hall key value hlast
    exact (h value).1 (hall _ (mem_sortedMembers_iff.2 ⟨value, hlast, rfl⟩))
  · rintro hall ⟨key, _⟩ hmem
    obtain ⟨value, hlast, rfl⟩ := mem_sortedMembers_iff.1 hmem
    exact (h value).2 (hall key value hlast)

theorem Recognizes.dict (h : Recognizes decode P) :
    Recognizes (Decoder.dict decode) (IsObjectOf (AllEntries P)) := by
  refine recognizes_object (fun members => h.dict_sortedMembers) fun document d hd => ?_
  cases document with
  | object members => exact ⟨members, rfl⟩
  | _ => cases hd

theorem Recognizes.nullable (h : Recognizes decode P) :
    Recognizes (Decoder.nullable decode) fun document => document = .null ∨ P document := by
  intro document
  by_cases hnull : document = .null
  · rw [hnull]
    exact ⟨fun _ => .inl rfl, fun _ => ⟨none, rfl⟩⟩
  · rw [nullable_of_ne_null _ (mt canonical_eq_null.1 hnull)]
    simp [map_eq_ok, hnull, ← h document]

/-- A field of a canonical object. -/
theorem Recognizes.field? (h : Recognizes decode P) :
    (∃ value, field? (sortedMembers members) key decode = .ok value) ↔ MayHave P key members := by
  have hvalues := valuesAt_sortedMembers key members
  cases hlast : lastMember? key members with
  | none =>
      rw [hlast] at hvalues
      simp [field?_of_nil hvalues, MayHave, hlast]
  | some document =>
      rw [hlast] at hvalues
      have hform : MayHave P key members ↔ document = .null ∨ P document := by
        simp [MayHave, hlast]
      refine Iff.trans ?_ ((h.nullable document).trans hform.symm)
      constructor
      · rintro ⟨value, hvalue⟩
        rcases field?_eq_last hvalue with ⟨hnone, -⟩ | ⟨found, hfound, hread⟩
        · simp [lastMember?_sortedMembers, hlast] at hnone
        · obtain rfl : document.canonical = found := by
            simpa [lastMember?_sortedMembers, hlast] using hfound
          exact ⟨value, hread⟩
      · rintro ⟨value, hread⟩
        exact ⟨value, field?_of_single hvalues hread⟩

theorem Recognizes.fieldD (h : Recognizes decode P) (default : α) :
    (∃ value, fieldD (sortedMembers members) key decode default = .ok value) ↔
      MayHave P key members := by
  rw [← h.field?]
  exact exists_bind_pure_iff

end Json

/-! ### Label selectors -/

open Json

variable {members : List (String × Json)}

/-- The fields of a requirement are of the right types. -/
structure Requirement.WellTyped (members : List (String × Json)) : Prop where
  key : MayHave IsText "key" members
  operator : MayHave IsText "operator" members
  values : MayHave (IsListOf IsText) "values" members

/-- The fields of a label selector are of the right types. -/
structure LabelSelector.WellTyped (members : List (String × Json)) : Prop where
  expressions : MayHave (IsListOf (IsObjectOf Requirement.WellTyped)) "matchExpressions" members
  labels : MayHave (IsObjectOf (AllEntries IsText)) "matchLabels" members

theorem exists_requirement_iff :
    (∃ r, Requirement.ofJson (.object (sortedMembers members)) = .ok r) ↔
      Requirement.WellTyped members := by
  simp only [Requirement.ofJson, bind_eq_ok, members_eq_ok, object.injEq, exists_eq_left']
  constructor
  · rintro ⟨r, key, hkey, operator, hoperator, values, hvalues, -⟩
    exact ⟨(recognizes_text.fieldD "").1 ⟨key, hkey⟩,
      (recognizes_text.fieldD "").1 ⟨operator, hoperator⟩,
      recognizes_text.list.field?.1 ⟨values, hvalues⟩⟩
  · intro h
    obtain ⟨key, hkey⟩ := (recognizes_text.fieldD "").2 h.key
    obtain ⟨operator, hoperator⟩ := (recognizes_text.fieldD "").2 h.operator
    obtain ⟨values, hvalues⟩ := recognizes_text.list.field?.2 h.values
    exact ⟨_, key, hkey, operator, hoperator, values, hvalues, rfl⟩

theorem recognizes_requirement :
    Recognizes Requirement.ofJson (IsObjectOf Requirement.WellTyped) := by
  refine recognizes_object (fun members => exists_requirement_iff) fun document r h => ?_
  obtain ⟨members, hmembers, -⟩ := bind_eq_ok.1 h
  exact ⟨members, members_eq_ok.1 hmembers⟩

/-- **A label selector is read when its fields are of the right types.** -/
theorem exists_labelSelector_iff :
    (∃ s, LabelSelector.ofJson (.object (sortedMembers members)) = .ok s) ↔
      LabelSelector.WellTyped members := by
  simp only [LabelSelector.ofJson, bind_eq_ok, members_eq_ok, object.injEq, exists_eq_left']
  constructor
  · rintro ⟨s, expressions, hexpressions, labels, hlabels, -⟩
    exact ⟨recognizes_requirement.list.field?.1 ⟨expressions, hexpressions⟩,
      recognizes_text.dict.field?.1 ⟨labels, hlabels⟩⟩
  · intro h
    obtain ⟨expressions, hexpressions⟩ := recognizes_requirement.list.field?.2 h.expressions
    obtain ⟨labels, hlabels⟩ := recognizes_text.dict.field?.2 h.labels
    exact ⟨_, expressions, hexpressions, labels, hlabels, rfl⟩

/-! ### Flat maps of labels -/

namespace Unstructured

/-- **A flat map is read like a map of texts.** -/
theorem flatLabels_eq_ok_iff {labels : Labels} :
    flatLabels members = .ok labels ↔ Decoder.dict .text (.object members) = .ok labels := by
  rw [dict_object_eq_ok, flatLabels]
  unfold Dict.ofList
  -- the entries of both are put into the same map, one after another
  generalize (Dict.empty : Labels) = start
  induction members generalizing start with
  | nil => simp [pure_eq_ok]
  | cons member rest ih =>
      obtain ⟨key, value⟩ := member
      rw [List.foldlM_cons, bind_eq_ok]
      simp only [List.forall₂_cons_left_iff, ih]
      constructor
      · rintro ⟨next, hnext, entries, hentries, rfl⟩
        cases value with
        | string text =>
            obtain rfl := Except.ok.inj hnext
            exact ⟨_, ⟨(key, text), entries, ⟨rfl, rfl⟩, hentries, rfl⟩, rfl⟩
        | _ => cases hnext
      · rintro ⟨_, ⟨⟨_, text⟩, entries, ⟨rfl, htext⟩, hentries, rfl⟩, rfl⟩
        cases value with
        | string s =>
            obtain rfl := Except.ok.inj htext
            exact ⟨_, rfl, entries, hentries, rfl⟩
        | _ => cases htext

theorem text_canonical_eq_ok {document : Json} {text : String} :
    Decoder.text document.canonical = .ok text ↔ document = .string text := by
  cases document <;> simp [canonical, Decoder.text, Decoder.mismatch]

theorem exists_flatLabels_iff :
    (∃ labels, flatLabels (sortedMembers members) = .ok labels) ↔ AllEntries IsText members := by
  simp only [flatLabels_eq_ok_iff]
  exact recognizes_text.dict_sortedMembers

theorem get?_flatLabels {labels : Labels} (h : flatLabels (sortedMembers members) = .ok labels)
    {key text : String} :
    labels.get? key = some text ↔ lastMember? key members = some (.string text) := by
  rw [get?_of_dict (flatLabels_eq_ok_iff.1 h), lastMember?_sortedMembers]
  cases lastMember? key members <;> simp [text_canonical_eq_ok]

/-- A flat map stands for its entries. -/
theorem selects_flat {entries labels : Labels} {selector : Selector}
    (h : flatLabels (sortedMembers members) = .ok entries)
    (hselector : (⟨some entries, none⟩ : LabelSelector).selector = .ok selector) :
    selector.selects labels = true ↔
      ∀ key text, lastMember? key members = some (.string text) → labels.get? key = some text := by
  rw [LabelSelector.selects_iff_matches hselector]
  simp only [← get?_flatLabels h, Dict.get?_eq_some_iff (d := entries)]
  constructor
  · intro hmatches
    exact hmatches.has
  · intro hall
    refine ⟨hall, ?_⟩
    simp [LabelSelector.requirements]

/-! ### The two forms -/

/-- One of the keys of a label selector is there. -/
def HasSelectorKey (members : List (String × Json)) : Prop :=
  ∃ value, lastMember? "matchLabels" members = some value ∨
    lastMember? "matchExpressions" members = some value

theorem any_isSelectorKey_iff :
    ((sortedMembers members).any fun member => isSelectorKey member.1) = true ↔
      HasSelectorKey members := by
  have hkey : ∀ key, isSelectorKey key = true ↔ key = "matchLabels" ∨ key = "matchExpressions" := by
    simp [isSelectorKey]
  rw [List.any_eq_true]
  constructor
  · rintro ⟨⟨key, _⟩, hmem, hselector⟩
    obtain ⟨value, hlast, -⟩ := mem_sortedMembers_iff.1 hmem
    rcases (hkey key).1 hselector with rfl | rfl
    · exact ⟨value, .inl hlast⟩
    · exact ⟨value, .inr hlast⟩
  · rintro ⟨value, hlast | hlast⟩
    · exact ⟨_, mem_sortedMembers_iff.2 ⟨value, hlast, rfl⟩, rfl⟩
    · exact ⟨_, mem_sortedMembers_iff.2 ⟨value, hlast, rfl⟩, rfl⟩

variable {o : Unstructured} {written : LabelSelector}

theorem labelSelector_eq_ok_iff
    (hstated : o.statedSelector? = some (.object (sortedMembers members)))
    (h : HasSelectorKey members) :
    o.labelSelector = .ok written ↔
      LabelSelector.ofJson (.object (sortedMembers members)) = .ok written := by
  rw [labelSelector, hstated]
  dsimp only
  rw [if_pos (any_isSelectorKey_iff.2 h)]
  cases LabelSelector.ofJson (.object (sortedMembers members)) <;> simp

theorem labelSelector_eq_map
    (hstated : o.statedSelector? = some (.object (sortedMembers members)))
    (h : ¬ HasSelectorKey members) :
    o.labelSelector =
      (flatLabels (sortedMembers members)).map fun labels => ⟨some labels, none⟩ := by
  rw [labelSelector, hstated]
  dsimp only
  rw [if_neg (mt any_isSelectorKey_iff.1 h)]

end Unstructured

/-! ### Controllers and other objects -/

namespace Workload

open Unstructured (HasSelectorKey)

/-- The document is that of a controller, with this selector. -/
structure ControllerStates (members : List (String × Json)) (document : Json) : Prop where
  kind : ∃ kind, declaredKind? document = some kind
  selector : selectorAt? document = some (.object members)

/-- The document is that of another object, with this selector. -/
structure OtherStates (members : List (String × Json)) (document : Json) : Prop where
  kind : declaredKind? document = none
  selector : selectorAt? document = some (.object members)

variable {document : Json} {levels : Nat} {w : Workload} {written : LabelSelector}

theorem selectorAt?_canonical_of_object (h : selectorAt? document = some (.object members)) :
    selectorAt? document.canonical = some (.object (sortedMembers members)) := by
  rw [selectorAt?_canonical, h]
  rfl

theorem ofCanonical_of_ofJson (h : Workload.ofJson levels document = .ok w) :
    ofCanonical levels document.canonical = .ok w := by
  obtain ⟨canonical, hraw, hread⟩ := bind_eq_ok.1 h
  obtain ⟨-, rfl⟩ := raw_eq_ok.1 hraw
  exact hread

/-- A controller has the selector that its document states. -/
theorem labelSelector_of_controllerStates (hdocument : ControllerStates members document)
    (h : Workload.ofJson levels document = .ok w) :
    ∃ written, LabelSelector.ofJson (.object (sortedMembers members)) = .ok written ∧
      w.labelSelector = .ok written := by
  obtain ⟨⟨kind, hkind⟩, hselector⟩ := hdocument
  have hstated := selectorAt?_canonical_of_object hselector
  have hread := ofCanonical_of_ofJson h
  rw [ofCanonical, declaredKind?_canonical, hkind] at hread
  obtain ⟨c, hc, rfl⟩ := map_eq_ok.1 hread
  rcases Controller.spec_of_ofJson hc with ⟨hspec | hspec, -⟩ | ⟨inner, spec, hspec, hsome, hfield⟩
  · rw [selectorAt?, hspec] at hstated
    cases hstated
  · rw [selectorAt?, hspec] at hstated
    cases hstated
  · rw [selectorAt?_of_object hspec] at hstated
    rcases fieldD_eq_ok hfield with ⟨hunset, -⟩ | ⟨d, hd, hd'⟩
    · simp [hstated] at hunset
    · obtain rfl : d = .object (sortedMembers members) := by simpa [hstated] using hd.symm
      exact ⟨spec.selector, hd', by rw [labelSelector, hsome]⟩

/-- Another object keeps the selector that its document states. -/
theorem unstructured_of_otherStates (hdocument : OtherStates members document)
    (h : Workload.ofJson levels document = .ok w) :
    ∃ o, w = .unstructured o ∧ o.statedSelector? = some (.object (sortedMembers members)) := by
  obtain ⟨hkind, hselector⟩ := hdocument
  have hread := ofCanonical_of_ofJson h
  rw [ofCanonical, declaredKind?_canonical, hkind] at hread
  obtain ⟨o, ho, rfl⟩ := map_eq_ok.1 hread
  refine ⟨o, rfl, ?_⟩
  rw [Unstructured.statedSelector?_of_ofJson ho, selectorAt?_canonical_of_object hselector]

/-- What is read of the selector decides what it resolves to. -/
theorem selector_of_labelSelector (h : w.labelSelector = .ok written) :
    w.selector = written.selector.mapError fun fault => .selector fault.message := by
  rw [selector, h]
  dsimp only
  cases written.selector <;> rfl

/-- Both workloads are refused with one message, or have one selector. -/
def ResolveAlike (w o : Workload) : Prop :=
  (∃ message, w.selector = .error (.selector message) ∧ o.selector = .error (.selector message)) ∨
    ∃ s, w.selector = .ok s ∧ o.selector = .ok s

theorem resolveAlike_of_labelSelector {o : Workload} (hw : w.labelSelector = .ok written)
    (ho : o.labelSelector = .ok written) : ResolveAlike w o := by
  rw [ResolveAlike, selector_of_labelSelector hw, selector_of_labelSelector ho]
  cases written.selector with
  | ok s => exact .inr ⟨s, rfl, rfl⟩
  | error fault => exact .inl ⟨fault.message, rfl, rfl⟩

/-- **Which flat maps resolve**, and what they select. -/
theorem selector_of_flat {o : Unstructured}
    (hstated : o.statedSelector? = some (.object (sortedMembers members)))
    (h : ¬ HasSelectorKey members) :
    ((∃ s, (Workload.unstructured o).selector = .ok s) ↔ AllEntries IsText members) ∧
      ∀ s, (Workload.unstructured o).selector = .ok s → ∀ labels : Labels,
        s.selects labels = true ↔ ∀ key text,
          lastMember? key members = some (.string text) → labels.get? key = some text := by
  have hmap := Unstructured.labelSelector_eq_map hstated h
  rw [← Unstructured.exists_flatLabels_iff]
  cases hflat : Unstructured.flatLabels (sortedMembers members) with
  | error fault =>
      rw [hflat] at hmap
      have hrefused : Refused (.unstructured o) := refused_of_labelSelector hmap
      refine ⟨⟨?_, ?_⟩, ?_⟩
      · rintro ⟨s, hs⟩
        exact absurd hs hrefused.not_ok
      · rintro ⟨labels, hlabels⟩
        cases hlabels
      · intro s hs
        exact absurd hs hrefused.not_ok
  | ok entries =>
      rw [hflat] at hmap
      have hlabel : (Workload.unstructured o).labelSelector = .ok ⟨some entries, none⟩ := hmap
      have hselector := selector_of_labelSelector hlabel
      have hnone : ∀ r ∈ (⟨some entries, none⟩ : LabelSelector).requirements, r.WellFormed := by
        simp [LabelSelector.requirements]
      refine ⟨⟨fun _ => ⟨entries, rfl⟩, fun _ => ?_⟩, fun s hs labels => ?_⟩
      · obtain ⟨s, hs⟩ := LabelSelector.exists_selector_iff.2 hnone
        exact ⟨s, by rw [hselector, hs]; rfl⟩
      · rw [hselector, mapError_eq_ok] at hs
        exact Unstructured.selects_flat hflat hs

/-- **A selector means the same in a controller as in another object.**  One with the keys of a
label selector resolves alike in both, and in neither if its fields are of wrong types.  One
without them is a flat map, which resolves when all its entries are texts, and selects the labels
that have these entries. -/
theorem selector_independent_of_kind (members : List (String × Json)) :
    (HasSelectorKey members →
      (∀ levels levels' controller other w o,
        ControllerStates members controller → OtherStates members other →
          Workload.ofJson levels controller = .ok w → Workload.ofJson levels' other = .ok o →
            ResolveAlike w o) ∧
      (∀ levels other o, OtherStates members other → Workload.ofJson levels other = .ok o →
        ((∃ written, o.labelSelector = .ok written) ↔ LabelSelector.WellTyped members)) ∧
      (¬ LabelSelector.WellTyped members →
        (∀ levels controller w, ControllerStates members controller →
          Workload.ofJson levels controller ≠ .ok w) ∧
        ∀ levels other o, OtherStates members other →
          Workload.ofJson levels other = .ok o → Refused o)) ∧
    (¬ HasSelectorKey members →
      ∀ levels other o, OtherStates members other → Workload.ofJson levels other = .ok o →
        ((∃ s, o.selector = .ok s) ↔ AllEntries IsText members) ∧
        ∀ s, o.selector = .ok s → ∀ labels : Labels,
          s.selects labels = true ↔ ∀ key text,
            lastMember? key members = some (.string text) → labels.get? key = some text) := by
  have hread : HasSelectorKey members → ∀ levels other o, OtherStates members other →
      Workload.ofJson levels other = .ok o →
        ((∃ written, o.labelSelector = .ok written) ↔ LabelSelector.WellTyped members) := by
    intro hkey levels other o hother ho
    obtain ⟨o, rfl, hstated⟩ := unstructured_of_otherStates hother ho
    rw [← exists_labelSelector_iff]
    exact exists_congr fun written => Unstructured.labelSelector_eq_ok_iff hstated hkey
  refine ⟨fun hkey => ⟨?_, hread hkey, fun htypes => ⟨?_, ?_⟩⟩, fun hkey => ?_⟩
  · intro levels levels' controller other w o hcontroller hother hw ho
    obtain ⟨written, hwritten, hlabel⟩ := labelSelector_of_controllerStates hcontroller hw
    obtain ⟨o, rfl, hstated⟩ := unstructured_of_otherStates hother ho
    exact resolveAlike_of_labelSelector hlabel
      ((Unstructured.labelSelector_eq_ok_iff hstated hkey).2 hwritten)
  · intro levels controller w hcontroller hw
    obtain ⟨written, hwritten, -⟩ := labelSelector_of_controllerStates hcontroller hw
    exact htypes (exists_labelSelector_iff.1 ⟨written, hwritten⟩)
  · intro levels other o hother ho
    cases hlabel : o.labelSelector with
    | error fault => exact refused_of_labelSelector hlabel
    | ok written => exact absurd ((hread hkey levels other o hother ho).1 ⟨written, hlabel⟩) htypes
  · intro levels other o hother ho
    obtain ⟨o, rfl, hstated⟩ := unstructured_of_otherStates hother ho
    exact selector_of_flat hstated hkey

/-! ### One selector in a deployment and in a rollout -/

/-- A deployment with a selector. -/
def deploymentWith (members : List (String × Json)) : Json :=
  namedWeb "apps/v1" "Deployment" [("selector", .object members), ("template", .object [])]

/-- A rollout with a selector. -/
def rolloutWith (members : List (String × Json)) : Json :=
  namedWeb "argoproj.io/v1alpha1" "Rollout" [("selector", .object members)]

/-- A label, a tier that is in question, and a key that no label selector has. -/
def webMembers : List (String × Json) :=
  [("matchLabels", .object [("app", .string "web")]),
    ("matchExpressions",
      .array [.object [("key", .string "tier"), ("operator", .string "Exists")]]),
    ("note", .null)]

/-- Labels that are no map. -/
def illTypedMembers : List (String × Json) :=
  [("matchLabels", .string "web")]

/-- A flat map. -/
def flatMembers : List (String × Json) :=
  [("app", .string "web"), ("tier", .string "edge")]

theorem selector_independent_of_kind_web :
    (∃ w o, Workload.ofJson depthLimit (deploymentWith webMembers) = .ok w ∧
      Workload.ofJson depthLimit (rolloutWith webMembers) = .ok o ∧ ResolveAlike w o) ∧
    (∀ w, Workload.ofJson depthLimit (deploymentWith illTypedMembers) ≠ .ok w) ∧
    (∃ o, Workload.ofJson depthLimit (rolloutWith illTypedMembers) = .ok o ∧ Refused o) ∧
    ∃ o, Workload.ofJson depthLimit (rolloutWith flatMembers) = .ok o ∧
      ∃ s, o.selector = .ok s ∧
        (s.selects (.ofList [("app", "web"), ("tier", "edge")]) = true ↔
          ∀ key text, lastMember? key flatMembers = some (.string text) →
            (Dict.ofList [("app", "web"), ("tier", "edge")]).get? key = some text) := by
  obtain ⟨hweb, -⟩ := selector_independent_of_kind webMembers
  obtain ⟨hill, -⟩ := selector_independent_of_kind illTypedMembers
  obtain ⟨-, hflat⟩ := selector_independent_of_kind flatMembers
  have hwebKey : HasSelectorKey webMembers := ⟨_, .inl rfl⟩
  have hillKey : HasSelectorKey illTypedMembers := ⟨_, .inl rfl⟩
  have hflatKey : ¬ HasSelectorKey flatMembers := by
    rintro ⟨value, hvalue | hvalue⟩
    · cases hvalue
    · cases hvalue
  have hwrong : ¬ LabelSelector.WellTyped illTypedMembers := by
    rintro ⟨-, hlabels⟩
    rcases hlabels (.string "web") rfl with hnull | ⟨inner, hobject, -⟩
    · cases hnull
    · cases hobject
  have hdeployment : ∀ members, ControllerStates members (deploymentWith members) :=
    fun members => ⟨⟨.deployment, rfl⟩, rfl⟩
  have hrollout : ∀ members, OtherStates members (rolloutWith members) :=
    fun members => ⟨rfl, rfl⟩
  obtain ⟨hcontroller, hother⟩ := (hill hillKey).2.2 hwrong
  refine ⟨⟨_, _, rfl, rfl, ?_⟩, fun w => ?_, ⟨_, rfl, ?_⟩, ⟨_, rfl, _, rfl, ?_⟩⟩
  · exact (hweb hwebKey).1 depthLimit depthLimit _ _ _ _ (hdeployment webMembers)
      (hrollout webMembers) rfl rfl
  · exact hcontroller depthLimit _ w (hdeployment illTypedMembers)
  · exact hother depthLimit _ _ (hrollout illTypedMembers) rfl
  · exact (hflat hflatKey depthLimit _ _ (hrollout flatMembers) rfl).2 _ rfl _

end Workload

end ScaleMetrics
