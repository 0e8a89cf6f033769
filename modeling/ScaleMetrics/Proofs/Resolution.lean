import ScaleMetrics.Proofs.Document
import ScaleMetrics.Workload.Codec

/-!
# Proofs — Resolution

Whether a workload's selector resolves, by the document that the workload was read from.

A document states a selector when there is an object at `spec.selector` (`StatesSelector`).
Without one the workload is refused by an error that names it (`Refused`), with one exception
(`LeavesSelectorOut`): a document that declares a controller and has a specification, in which the
selector is missing or null.  The controller is then read with the empty selector, and this
selects every pod.

* `Controller.spec_of_ofJson` and `Unstructured.statedSelector?_of_ofJson`: what is read of
  `spec.selector`.
* `selector_of_ofCanonical`: the three cases.
* `selector_resolution`: a selector that is missing or null resolves in the exception alone.
* `deployment_selects_everything`: a document of this exception.
-/

namespace ScaleMetrics

open Json

/-! ### The selector in a document -/

namespace Workload

/-- The value at `spec.selector`. -/
def selectorAt? (document : Json) : Option Json := do
  (← document.get? "spec").get? "selector"

/-- There is an object at `spec.selector`. -/
def StatesSelector (document : Json) : Prop :=
  ∃ members, selectorAt? document = some (.object members)

/-- `spec.selector` is missing or null. -/
def Unset (document : Json) : Prop :=
  selectorAt? document = none ∨ selectorAt? document = some .null

/-- The document is that of a controller, and its specification is there but leaves the selector
out. -/
def LeavesSelectorOut (document : Json) : Prop :=
  (∃ kind, declaredKind? document = some kind) ∧
    (∃ members, document.get? "spec" = some (.object members)) ∧ Unset document

/-- No selector resolves, by an error that names the workload. -/
def Refused (w : Workload) : Prop :=
  ∃ fault : SelectorFault, w.selector = .error (.selector
    ("unable to resolve pod selector for " ++ w.describe ++ ": " ++ fault.message))

variable {document : Json} {w : Workload}

theorem Unset.not_statesSelector (h : Unset document) : ¬ StatesSelector document := by
  rintro ⟨members, hstated⟩
  rcases h with h | h
  · rw [h] at hstated
    cases hstated
  · rw [h] at hstated
    cases hstated

theorem refused_of_labelSelector {fault : SelectorFault} (h : w.labelSelector = .error fault) :
    Refused w :=
  ⟨fault, by rw [selector, h]⟩

theorem Refused.not_ok (h : Refused w) {s : Selector} : w.selector ≠ .ok s := by
  obtain ⟨fault, h⟩ := h
  rw [h]
  exact nofun

theorem selectorAt?_of_object {members : List (String × Json)}
    (h : document.get? "spec" = some (.object members)) :
    selectorAt? document = lastMember? "selector" members := by
  rw [selectorAt?, h]
  rfl

/-! ### The canonical form

It states the same. -/

theorem selectorAt?_canonical (document : Json) :
    selectorAt? document.canonical = (selectorAt? document).map canonical := by
  rw [selectorAt?, selectorAt?, get?_canonical]
  cases document.get? "spec" with
  | none => rfl
  | some spec => exact get?_canonical spec "selector"

theorem object?_canonical {found : Option Json} :
    (∃ members, found.map canonical = some (.object members)) ↔
      ∃ members, found = some (.object members) := by
  cases found with
  | none => simp
  | some d => simpa using canonical_eq_object

theorem statesSelector_canonical : StatesSelector document.canonical ↔ StatesSelector document := by
  rw [StatesSelector, selectorAt?_canonical]
  exact object?_canonical

theorem unset_canonical : Unset document.canonical ↔ Unset document := by
  rw [Unset, Unset, selectorAt?_canonical]
  cases selectorAt? document with
  | none => simp
  | some d => simp [canonical_eq_null]

theorem declaredKind?_canonical (document : Json) :
    declaredKind? document.canonical = declaredKind? document := by
  have hstring : ∀ key, (document.canonical.get? key).bind string? =
      (document.get? key).bind string? := fun key => by
    rw [get?_canonical]
    cases document.get? key with
    | none => rfl
    | some d => exact string?_canonical d
  have hunfold : ∀ d : Json, declaredKind? d =
      ((d.get? "apiVersion").bind string?).bind fun version =>
        ((d.get? "kind").bind string?).bind fun kind =>
          if version = ControllerKind.apiVersion then ControllerKind.ofName? kind else none :=
    fun d => by
      rw [declaredKind?]
      cases d.get? "apiVersion" <;> cases d.get? "kind" <;> rfl
  rw [hunfold, hunfold, hstring, hstring]

theorem leavesSelectorOut_canonical :
    LeavesSelectorOut document.canonical ↔ LeavesSelectorOut document := by
  rw [LeavesSelectorOut, LeavesSelectorOut, declaredKind?_canonical, get?_canonical,
    object?_canonical, unset_canonical]

end Workload

/-! ### What is read -/

variable {document : Json} {levels : Nat}

/-- A controller has a specification when its document has. -/
theorem Controller.spec_of_ofJson {kind : ControllerKind} {c : Controller}
    (h : Controller.ofJson kind levels document = .ok c) :
    (document.get? "spec" = none ∨ document.get? "spec" = some .null) ∧ c.spec = none ∨
      ∃ members spec, document.get? "spec" = some (.object members) ∧ c.spec = some spec ∧
        fieldD members "selector" LabelSelector.ofJson .empty = .ok spec.selector := by
  rw [Controller.ofJson] at h
  obtain ⟨members, hmembers, hread⟩ := bind_eq_ok.1 h
  obtain rfl := members_eq_ok.1 hmembers
  -- the declared type, the metadata and the status do not matter here
  obtain ⟨-, -, hread⟩ := bind_eq_ok.1 hread
  obtain ⟨-, -, hread⟩ := bind_eq_ok.1 hread
  obtain ⟨metadata, -, hread⟩ := bind_eq_ok.1 hread
  obtain ⟨spec, hspec, hread⟩ := bind_eq_ok.1 hread
  obtain ⟨status, -, hread⟩ := bind_eq_ok.1 hread
  obtain rfl := pure_eq_ok.1 hread
  rcases field?_eq_ok hspec with ⟨hunset, rfl⟩ | ⟨d, found, hd, hfound, rfl⟩
  · exact .inl ⟨hunset, rfl⟩
  · rw [ControllerSpec.ofJson] at hfound
    obtain ⟨inner, hinner, hspecRead⟩ := bind_eq_ok.1 hfound
    obtain rfl := members_eq_ok.1 hinner
    obtain ⟨selector, hselector, hspecRead⟩ := bind_eq_ok.1 hspecRead
    obtain ⟨other, -, hspecRead⟩ := bind_eq_ok.1 hspecRead
    obtain rfl := pure_eq_ok.1 hspecRead
    exact .inr ⟨inner, _, hd, rfl, hselector⟩

/-- The type uses up no specification. -/
theorem Unstructured.spec_not_used (members : List (String × Json)) :
    (Unstructured.readType members).2.contains "spec" = false := by
  rw [Unstructured.readType]
  split <;> exact rfl

/-- Another object has the specification of its document. -/
theorem Unstructured.statedSelector?_of_ofJson {o : Unstructured}
    (h : Unstructured.ofJson levels document = .ok o) :
    o.statedSelector? = Workload.selectorAt? document := by
  rw [Unstructured.ofJson] at h
  obtain ⟨members, hmembers, hread⟩ := bind_eq_ok.1 h
  obtain rfl := members_eq_ok.1 hmembers
  have hused := Unstructured.spec_not_used members
  cases htype : Unstructured.readType members with
  | mk type used =>
      rw [htype] at hread hused
      obtain ⟨metadata, -, hread⟩ := bind_eq_ok.1 hread
      obtain rfl := pure_eq_ok.1 hread
      have hspec : lastMember? "spec" (members.filter fun member =>
          member.1 ≠ "metadata" && !used.contains member.1) = lastMember? "spec" members := by
        refine lastMember?_filter (fun key => key ≠ "metadata" && !used.contains key) ?_ members
        rw [hused]
        rfl
      rw [Unstructured.statedSelector?, hspec]
      rfl

/-! ### The three cases -/

namespace Workload

variable {w : Workload}

theorem selector_of_controller {kind : ControllerKind} {c : Controller}
    (hkind : declaredKind? document = some kind)
    (h : Controller.ofJson kind levels document = .ok c) :
    StatesSelector document ∨
      LeavesSelectorOut document ∧ (Workload.controller c).selector = .ok .everything ∨
        ¬ LeavesSelectorOut document ∧ Refused (.controller c) := by
  rcases Controller.spec_of_ofJson h with ⟨hspec, hnone⟩ | ⟨members, spec, hspec, hsome, hselector⟩
  · have hlabel : (Workload.controller c).labelSelector = .error .noSpec := by
      rw [labelSelector, hnone]
    refine .inr (.inr ⟨?_, refused_of_labelSelector hlabel⟩)
    rintro ⟨-, ⟨members, hobject⟩, -⟩
    rcases hspec with hspec | hspec
    · rw [hspec] at hobject
      cases hobject
    · rw [hspec] at hobject
      cases hobject
  · rcases fieldD_eq_ok hselector with ⟨hunset, hempty⟩ | ⟨d, hd, hread⟩
    · -- the default stands for a selector that nobody wrote, and has no conditions
      refine .inr (.inl ⟨⟨⟨kind, hkind⟩, ⟨members, hspec⟩, ?_⟩, ?_⟩)
      · rwa [Unset, selectorAt?_of_object hspec]
      · have hlabel : (Workload.controller c).labelSelector = .ok .empty := by
          rw [labelSelector, hsome]
          exact congrArg Except.ok hempty
        rw [selector, hlabel]
        rfl
    · rw [LabelSelector.ofJson] at hread
      obtain ⟨inner, hinner, -⟩ := bind_eq_ok.1 hread
      obtain rfl := members_eq_ok.1 hinner
      exact .inl ⟨inner, by rw [selectorAt?_of_object hspec, hd]⟩

theorem labelSelector_of_unstructured {o : Unstructured}
    (h : Unstructured.ofJson levels document = .ok o) :
    StatesSelector document ∨ ∃ fault, o.labelSelector = .error fault := by
  rw [Unstructured.labelSelector, Unstructured.statedSelector?_of_ofJson h]
  cases hstated : selectorAt? document with
  | none => exact .inr ⟨_, rfl⟩
  | some d =>
      cases d with
      | object members => exact .inl ⟨members, hstated⟩
      | _ => exact .inr ⟨_, rfl⟩

/-- **The selector of a workload that is read.** -/
theorem selector_of_ofCanonical (h : ofCanonical levels document = .ok w) :
    StatesSelector document ∨
      LeavesSelectorOut document ∧ w.selector = .ok .everything ∨
        ¬ LeavesSelectorOut document ∧ Refused w := by
  rw [ofCanonical] at h
  cases hkind : declaredKind? document with
  | some kind =>
      rw [hkind] at h
      obtain ⟨c, hread, rfl⟩ := map_eq_ok.1 h
      exact selector_of_controller hkind hread
  | none =>
      rw [hkind] at h
      -- only the document of a controller can leave the selector out
      have hkept : ¬ LeavesSelectorOut document := by
        rintro ⟨⟨kind, hsome⟩, -⟩
        rw [hkind] at hsome
        cases hsome
      obtain ⟨o, hread, rfl⟩ := map_eq_ok.1 h
      rcases labelSelector_of_unstructured hread with hstates | ⟨fault, hfault⟩
      · exact .inl hstates
      · exact .inr (.inr ⟨hkept, refused_of_labelSelector hfault⟩)

/-- **Resolution fails closed, but for one case.**  Unless a controller's specification leaves the
selector out, a selector resolves only if there is an object at `spec.selector`, and a workload in
which it is missing or null is refused.  In that case there is no such object, and the selector of
every pod resolves. -/
theorem selector_resolution (levels : Nat) (document : Json) (w : Workload)
    (h : Workload.ofJson levels document = .ok w) :
    (¬ LeavesSelectorOut document →
      ((∃ selector, w.selector = .ok selector) → StatesSelector document) ∧
        (Unset document → Refused w)) ∧
    (LeavesSelectorOut document →
      ¬ StatesSelector document ∧ w.selector = .ok .everything) := by
  rw [Workload.ofJson] at h
  obtain ⟨canonical, hraw, hread⟩ := bind_eq_ok.1 h
  rw [Json.Decoder.raw] at hraw
  split at hraw
  case isFalse => cases hraw
  obtain rfl := Except.ok.inj hraw
  have hcases := selector_of_ofCanonical hread
  rw [statesSelector_canonical, leavesSelectorOut_canonical] at hcases
  rcases hcases with hstates | ⟨hout, hselector⟩ | ⟨hkept, hrefused⟩
  · have hset : ¬ Unset document := fun hunset => hunset.not_statesSelector hstates
    refine ⟨fun _ => ⟨fun _ => hstates, ?_⟩, ?_⟩
    · intro hunset
      exact absurd hunset hset
    · intro hout
      exact absurd hout.2.2 hset
  · refine ⟨?_, ?_⟩
    · intro hkept
      exact absurd hout hkept
    · intro _
      exact ⟨hout.2.2.not_statesSelector, hselector⟩
  · refine ⟨fun _ => ⟨?_, fun _ => hrefused⟩, ?_⟩
    · rintro ⟨s, hs⟩
      exact absurd hs hrefused.not_ok
    · intro hout
      exact absurd hout hkept

/-! ### A controller and another object without a selector -/

/-- The document of an object named `web`. -/
def namedWeb (version kind : String) (spec : List (String × Json)) : Json :=
  .object [("apiVersion", .string version), ("kind", .string kind),
    ("metadata", .object [("name", .string "web")]), ("spec", .object spec)]

/-- A deployment whose specification has no selector. -/
def bareDeployment : Json :=
  namedWeb "apps/v1" "Deployment" [("template", .object [])]

/-- A rollout whose selector is null. -/
def bareRollout : Json :=
  namedWeb "argoproj.io/v1alpha1" "Rollout" [("selector", .null)]

/-- **A selector that is not set can resolve**, and to that of every pod. -/
theorem deployment_selects_everything :
    ∃ w, Workload.ofJson depthLimit bareDeployment = .ok w ∧
      selectorAt? bareDeployment = none ∧ w.selector = .ok .everything :=
  ⟨_, rfl, rfl, rfl⟩

theorem selector_resolution_bare :
    (∃ w, Workload.ofJson depthLimit bareDeployment = .ok w ∧ w.selector = .ok .everything) ∧
      ∃ w, Workload.ofJson depthLimit bareRollout = .ok w ∧ Refused w := by
  have hout : LeavesSelectorOut bareDeployment := ⟨⟨.deployment, rfl⟩, ⟨_, rfl⟩, .inl rfl⟩
  have hkept : ¬ LeavesSelectorOut bareRollout := by
    rintro ⟨⟨kind, hkind⟩, -⟩
    cases hkind
  have hunset : Unset bareRollout := .inr rfl
  exact ⟨⟨_, rfl, ((selector_resolution depthLimit bareDeployment _ rfl).2 hout).2⟩,
    ⟨_, rfl, ((selector_resolution depthLimit bareRollout _ rfl).1 hkept).2 hunset⟩⟩

end Workload

end ScaleMetrics
