import ScaleMetrics.MetricSpec.Source
import ScaleMetrics.Proofs.Outcome

/-!
# Proofs — WellFormed

Which specifications have a source, and what it is.

A specification asks for a source (`MetricSpec.AsksFor`) when its kind is one that can be measured,
the block of that kind is the only one, the block names its metric, and its target suits the kind.
The source is what the block says.  `source_eq_ok_iff`: these are the specifications that have a
source, each its own.

The check goes in three steps, each with its inversion: the kind (`ofSpecKind?_eq_some_iff`), the
blocks of other kinds (`otherBlocks_eq_nil_iff`), and the block of the kind itself.
-/

namespace ScaleMetrics

/-- The word of a specification for a kind of source. -/
def SourceKind.specName : SourceKind → String
  | .object => "Object"
  | .pods => "Pods"
  | .resource => "Resource"
  | .external => "External"

theorem SourceKind.ofSpecKind?_eq_some_iff {word : String} {kind : SourceKind} :
    ofSpecKind? word = some kind ↔ word = kind.specName := by
  constructor
  · intro h
    unfold ofSpecKind? at h
    split_ifs at h with h₁ h₂ h₃ h₄ <;> cases h <;> assumption
  · rintro rfl
    cases kind <;> rfl

/-- The word of a specification for a target of a resource. -/
def ResourceTarget.specName : ResourceTarget → String
  | .averageValue => "AverageValue"
  | .utilization => "Utilization"

/-- The word of a specification for a target of an object or of an outside system. -/
def ValueTarget.specName : ValueTarget → String
  | .value => "Value"
  | .averageValue => "AverageValue"

namespace MetricSpec

/-! ### The parts of a block -/

theorem need_eq_ok_iff {α : Type} {kind : SourceKind} {block : Option α} {b : α} :
    need kind block = .ok b ↔ block = some b := by
  cases block <;> simp [need]

theorem named_eq_ok_iff {kind : SourceKind} {name : String} {u : Unit} :
    named kind name = .ok u ↔ name ≠ "" := by
  rw [named]
  split
  · next h => simp [h]
  · next h => simp [h]

/-- What is read of a block: the block is there, its name is not empty, and the rest is read. -/
theorem named_block_eq_ok_iff {α β : Type} {kind : SourceKind} {block? : Option α}
    {name : α → String} {rest : α → Except Fault β} {b : β} :
    (do
        let block ← need kind block?
        named kind (name block)
        rest block) = .ok b ↔
      ∃ block, block? = some block ∧ name block ≠ "" ∧ rest block = .ok b := by
  rw [bind_eq_ok]
  refine exists_congr fun block => ?_
  rw [need_eq_ok_iff, bind_eq_ok]
  simp only [named_eq_ok_iff, exists_const]

theorem resourceTarget_eq_ok_iff {target : MetricTarget} {t : ResourceTarget} :
    resourceTarget target = .ok t ↔ target.kind = t.specName := by
  rw [resourceTarget]
  constructor
  · intro h
    split_ifs at h with h₁ h₂ <;> cases h <;> assumption
  · intro h
    cases t <;> simp [h, ResourceTarget.specName]

theorem valueTarget_eq_ok_iff {kind : SourceKind} {target : MetricTarget} {t : ValueTarget} :
    valueTarget kind target = .ok t ↔ target.kind = t.specName := by
  rw [valueTarget]
  constructor
  · intro h
    split_ifs at h with h₁ h₂ <;> cases h <;> assumption
  · intro h
    cases t <;> simp [h, ValueTarget.specName]

/-! ### The blocks of other kinds -/

/-- The specification has no block but that of the kind. -/
structure HasOnly (spec : MetricSpec) (kind : SourceKind) : Prop where
  containerResource : spec.containerResource = none
  external : kind ≠ .external → spec.external = none
  object : kind ≠ .object → spec.object = none
  pods : kind ≠ .pods → spec.pods = none
  resource : kind ≠ .resource → spec.resource = none

theorem filter_blockName_eq_nil_iff {α : Type} {block : Option α} {name other : String} :
    (blockName block name).filter (· ≠ other) = [] ↔ (name ≠ other → block = none) := by
  cases block <;> simp [blockName]

theorem name_ne_name_iff {kind other : SourceKind} : kind.name ≠ other.name ↔ other ≠ kind := by
  cases kind <;> cases other <;> decide

theorem otherBlocks_eq_nil_iff {spec : MetricSpec} {kind : SourceKind} :
    spec.blocks.filter (· ≠ kind.name) = [] ↔ spec.HasOnly kind := by
  have hcontainer : "container resource" ≠ kind.name := by cases kind <;> decide
  rw [blocks, List.filter_append, List.filter_append, List.filter_append, List.filter_append]
  simp only [List.append_eq_nil_iff, filter_blockName_eq_nil_iff, name_ne_name_iff]
  constructor
  · rintro ⟨⟨⟨⟨hobject, hpods⟩, hresource⟩, hexternal⟩, hnone⟩
    exact ⟨hnone hcontainer, hexternal, hobject, hpods, hresource⟩
  · rintro ⟨hnone, hexternal, hobject, hpods, hresource⟩
    exact ⟨⟨⟨⟨hobject, hpods⟩, hresource⟩, hexternal⟩, fun _ => hnone⟩

/-! ### The source of a specification -/

/-- The specification asks for the source: it has one block, that of its kind, which names its
metric and has a target that suits the kind. -/
inductive AsksFor : MetricSpec → Source → Prop where
  | resource {block : ResourceBlock} {target : ResourceTarget} :
      block.name ≠ "" → block.target.kind = target.specName →
      AsksFor ⟨none, none, none, none, some block, "Resource"⟩ (.resource block.name target)
  | pods {block : PodsBlock} :
      block.metric.name ≠ "" → block.target.kind = "AverageValue" →
      AsksFor ⟨none, none, none, some block, none, "Pods"⟩ (.pods block.metric)
  | object {block : ObjectBlock} {target : ValueTarget} :
      block.metric.name ≠ "" → block.target.kind = target.specName →
      AsksFor ⟨none, none, some block, none, none, "Object"⟩
        (.object block.describedObject block.metric target)
  | external {block : ExternalBlock} {target : ValueTarget} :
      block.metric.name ≠ "" → block.target.kind = target.specName →
      AsksFor ⟨none, some block, none, none, none, "External"⟩ (.external block.metric target)

/-- The source is found in the block of the kind, once the kind is known and no other block is
there. -/
theorem source_eq_ok_iff_sourceOf {spec : MetricSpec} {source : Source} :
    spec.source = .ok source ↔
      ∃ kind : SourceKind, spec.kind = kind.specName ∧ spec.HasOnly kind ∧
        spec.sourceOf kind = .ok source := by
  simp only [← SourceKind.ofSpecKind?_eq_some_iff, ← otherBlocks_eq_nil_iff]
  rw [MetricSpec.source, sourceKind?]
  cases SourceKind.ofSpecKind? spec.kind with
  | none => simp
  | some kind =>
      simp only [Option.some.injEq, exists_eq_left']
      cases spec.blocks.filter (· ≠ kind.name) <;> simp

theorem sourceOf_eq_ok_iff {spec : MetricSpec} {kind : SourceKind} {source : Source}
    (hkind : spec.kind = kind.specName) (hblocks : spec.HasOnly kind) :
    spec.sourceOf kind = .ok source ↔ AsksFor spec source := by
  obtain ⟨containerResource, external, object, pods, resource, word⟩ := spec
  obtain rfl : word = kind.specName := hkind
  obtain rfl : containerResource = none := hblocks.containerResource
  cases kind with
  | resource =>
      obtain rfl : external = none := hblocks.external (by decide)
      obtain rfl : object = none := hblocks.object (by decide)
      obtain rfl : pods = none := hblocks.pods (by decide)
      rw [sourceOf, named_block_eq_ok_iff]
      simp only [bind_pure_eq_ok, resourceTarget_eq_ok_iff]
      constructor
      · rintro ⟨block, rfl, hname, target, htarget, rfl⟩
        exact .resource hname htarget
      · rintro (⟨hname, htarget⟩ | _ | _ | _)
        exact ⟨_, rfl, hname, _, htarget, rfl⟩
  | pods =>
      obtain rfl : external = none := hblocks.external (by decide)
      obtain rfl : object = none := hblocks.object (by decide)
      obtain rfl : resource = none := hblocks.resource (by decide)
      rw [sourceOf, named_block_eq_ok_iff]
      constructor
      · rintro ⟨block, rfl, hname, hrest⟩
        split_ifs at hrest with htarget
        obtain rfl := pure_eq_ok.1 hrest
        exact .pods hname htarget
      · rintro (_ | ⟨hname, htarget⟩ | _ | _)
        exact ⟨_, rfl, hname, if_pos htarget⟩
  | object =>
      obtain rfl : external = none := hblocks.external (by decide)
      obtain rfl : pods = none := hblocks.pods (by decide)
      obtain rfl : resource = none := hblocks.resource (by decide)
      rw [sourceOf, named_block_eq_ok_iff]
      simp only [bind_pure_eq_ok, valueTarget_eq_ok_iff]
      constructor
      · rintro ⟨block, rfl, hname, target, htarget, rfl⟩
        exact .object hname htarget
      · rintro (_ | _ | ⟨hname, htarget⟩ | _)
        exact ⟨_, rfl, hname, _, htarget, rfl⟩
  | external =>
      obtain rfl : object = none := hblocks.object (by decide)
      obtain rfl : pods = none := hblocks.pods (by decide)
      obtain rfl : resource = none := hblocks.resource (by decide)
      rw [sourceOf, named_block_eq_ok_iff]
      simp only [bind_pure_eq_ok, valueTarget_eq_ok_iff]
      constructor
      · rintro ⟨block, rfl, hname, target, htarget, rfl⟩
        exact .external hname htarget
      · rintro (_ | _ | _ | ⟨hname, htarget⟩)
        exact ⟨_, rfl, hname, _, htarget, rfl⟩

theorem AsksFor.hasOnly {spec : MetricSpec} {source : Source} (h : AsksFor spec source) :
    spec.HasOnly source.kind := by
  cases h <;> constructor <;> intros <;> first | rfl | contradiction

/-- **Well-formed specifications** are those that have a source. -/
theorem source_eq_ok_iff {spec : MetricSpec} {source : Source} :
    spec.source = .ok source ↔ AsksFor spec source := by
  rw [source_eq_ok_iff_sourceOf]
  constructor
  · rintro ⟨kind, hkind, hblocks, h⟩
    exact (sourceOf_eq_ok_iff hkind hblocks).1 h
  · intro h
    have hkind : spec.kind = source.kind.specName := by cases h <;> rfl
    exact ⟨source.kind, hkind, h.hasOnly, (sourceOf_eq_ok_iff hkind h.hasOnly).2 h⟩

theorem AsksFor.sourceKind?_eq {spec : MetricSpec} {source : Source} (h : AsksFor spec source) :
    spec.sourceKind? = some source.kind := by
  cases h <;> rfl

end MetricSpec

end ScaleMetrics
