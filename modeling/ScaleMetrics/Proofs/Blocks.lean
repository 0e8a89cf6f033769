import ScaleMetrics.Proofs.WellFormed

/-!
# Proofs — Blocks

Which blocks a specification may have, and which ones its error lists.

Of the five blocks each is for a type of source, but for the one about container resources, which
is for none (`Block.word?`).  A block that is there and not for the specification's type is one too
many (`IsOther`).  A specification is complete when its type is that of a kind of source, it has no
block too many, and the block of its type has a name and a target that the kind allows
(`Complete`).

* `exists_source_iff`: the complete specifications are those that have a source.
* `source_eq_error_otherBlocks`: with a known type, the blocks that are too many are the error.
* `source_accepts_complete`: both, with what the source says.
* `blocks_of_unknown_type_not_listed`: with an unknown type, only the type is the error.
-/

namespace ScaleMetrics

/-- The blocks of a specification. -/
inductive Block where
  | object
  | pods
  | resource
  | external
  | containerResource
  deriving DecidableEq

namespace Block

/-- The name of a block in messages. -/
def name : Block → String
  | .object => "object"
  | .pods => "pods"
  | .resource => "resource"
  | .external => "external"
  | .containerResource => "container resource"

/-- The type of source that a block is for. -/
def word? : Block → Option String
  | .object => some "Object"
  | .pods => some "Pods"
  | .resource => some "Resource"
  | .external => some "External"
  | .containerResource => none

/-- The blocks in the order of messages. -/
def all : List Block :=
  [.object, .pods, .resource, .external, .containerResource]

/-- The specification has the block. -/
def isIn (spec : MetricSpec) : Block → Bool
  | .object => spec.object.isSome
  | .pods => spec.pods.isSome
  | .resource => spec.resource.isSome
  | .external => spec.external.isSome
  | .containerResource => spec.containerResource.isSome

theorem mem_all (b : Block) : b ∈ all := by
  cases b <;> decide

/-- A block has the name of a kind when it is for that kind. -/
theorem name_eq_iff {b : Block} {kind : SourceKind} :
    b.name = kind.name ↔ b.word? = some kind.specName := by
  cases b <;> cases kind <;> decide

end Block

namespace MetricSpec

variable {spec : MetricSpec} {kind : SourceKind} {source : Source}

/-! ### Blocks that are too many -/

/-- The specification has the block, and its type is another. -/
def IsOther (spec : MetricSpec) (b : Block) : Prop :=
  b.isIn spec = true ∧ b.word? ≠ some spec.kind

/-- The blocks that are too many, in the order of messages. -/
def others (spec : MetricSpec) : List Block :=
  Block.all.filter fun b => b.isIn spec && b.word? != some spec.kind

theorem mem_others_iff {b : Block} : b ∈ spec.others ↔ spec.IsOther b := by
  simp [others, Block.mem_all, IsOther]

theorem blocks_eq_map (spec : MetricSpec) :
    spec.blocks = (Block.all.filter (·.isIn spec)).map Block.name := by
  obtain ⟨containerResource, external, object, pods, resource, word⟩ := spec
  cases containerResource <;> cases external <;> cases object <;> cases pods <;> cases resource <;>
    rfl

/-- The blocks that are too many are those whose name is not that of the kind. -/
theorem filter_blocks_eq_map (hkind : spec.kind = kind.specName) :
    spec.blocks.filter (· ≠ kind.name) = spec.others.map Block.name := by
  rw [blocks_eq_map, List.filter_map, List.filter_filter, others, hkind]
  congr 1
  refine List.filter_congr fun b _ => ?_
  rw [Bool.eq_iff_iff]
  simp [Block.name_eq_iff, and_comm]

/-- A specification of a known type, by its blocks. -/
theorem source_of_known (hkind : spec.kind = kind.specName) :
    spec.source = if spec.others = [] then spec.sourceOf kind
      else .error (.otherBlocks kind (spec.others.map Block.name)) := by
  have hknown : spec.sourceKind? = some kind := SourceKind.ofSpecKind?_eq_some_iff.2 hkind
  rw [source, hknown]
  dsimp only
  rw [filter_blocks_eq_map hkind]
  cases spec.others <;> rfl

/-- **The blocks that are too many are the error**, whatever else is wrong. -/
theorem source_eq_error_otherBlocks (hkind : spec.kind = kind.specName) (h : spec.others ≠ []) :
    spec.source = .error (.otherBlocks kind (spec.others.map Block.name)) := by
  rw [source_of_known hkind, if_neg h]

/-! ### Complete specifications -/

/-- The name and the target in the block of a kind. -/
def nameAndTarget? (spec : MetricSpec) : SourceKind → Option (String × String)
  | .object => spec.object.map fun block => (block.metric.name, block.target.kind)
  | .pods => spec.pods.map fun block => (block.metric.name, block.target.kind)
  | .resource => spec.resource.map fun block => (block.name, block.target.kind)
  | .external => spec.external.map fun block => (block.metric.name, block.target.kind)

/-- The targets that a kind of source allows. -/
def allowedTargets : SourceKind → List String
  | .resource => ["AverageValue", "Utilization"]
  | .pods => ["AverageValue"]
  | .object | .external => ["Value", "AverageValue"]

/-- The type is that of the kind, no block is too many, and the block of the kind has a name and an
allowed target. -/
structure Complete (spec : MetricSpec) (kind : SourceKind) : Prop where
  type : spec.kind = kind.specName
  alone : ∀ b, ¬ spec.IsOther b
  block : ∃ name target, spec.nameAndTarget? kind = some (name, target) ∧ name ≠ "" ∧
    target ∈ allowedTargets kind

theorem others_eq_nil_iff : spec.others = [] ↔ ∀ b, ¬ spec.IsOther b := by
  simp only [List.eq_nil_iff_forall_not_mem, mem_others_iff]

/-- A block whose rest is read by its target alone. -/
theorem exists_named_block_iff {α β : Type} {block? : Option α} {name target : α → String}
    {rest : α → Except Fault β} {allowed : List String}
    (hrest : ∀ block, (∃ b, rest block = .ok b) ↔ target block ∈ allowed) :
    (∃ b, (do
        let block ← need kind block?
        named kind (name block)
        rest block) = .ok b) ↔
      ∃ n t, block?.map (fun block => (name block, target block)) = some (n, t) ∧ n ≠ "" ∧
        t ∈ allowed := by
  simp only [named_block_eq_ok_iff, Option.map_eq_some_iff, Prod.mk.injEq]
  constructor
  · rintro ⟨b, block, hblock, hname, hb⟩
    exact ⟨_, _, ⟨block, hblock, rfl, rfl⟩, hname, (hrest block).1 ⟨b, hb⟩⟩
  · rintro ⟨_, _, ⟨block, hblock, rfl, rfl⟩, hname, hallowed⟩
    obtain ⟨b, hb⟩ := (hrest block).2 hallowed
    exact ⟨b, block, hblock, hname, hb⟩

theorem exists_resourceTarget_iff {target : MetricTarget} :
    (∃ t, resourceTarget target = .ok t) ↔ target.kind ∈ allowedTargets .resource := by
  simp only [resourceTarget_eq_ok_iff, allowedTargets, List.mem_cons, List.not_mem_nil, or_false]
  constructor
  · rintro ⟨_ | _, h⟩
    · exact .inl h
    · exact .inr h
  · rintro (h | h)
    · exact ⟨.averageValue, h⟩
    · exact ⟨.utilization, h⟩

theorem exists_valueTarget_iff {target : MetricTarget} :
    (∃ t, valueTarget kind target = .ok t) ↔ target.kind ∈ allowedTargets .object := by
  simp only [valueTarget_eq_ok_iff, allowedTargets, List.mem_cons, List.not_mem_nil, or_false]
  constructor
  · rintro ⟨_ | _, h⟩
    · exact .inl h
    · exact .inr h
  · rintro (h | h)
    · exact ⟨.value, h⟩
    · exact ⟨.averageValue, h⟩

/-- The block of a kind is read when it has a name and an allowed target. -/
theorem exists_sourceOf_iff :
    (∃ source, spec.sourceOf kind = .ok source) ↔
      ∃ name target, spec.nameAndTarget? kind = some (name, target) ∧ name ≠ "" ∧
        target ∈ allowedTargets kind := by
  cases kind with
  | resource =>
      exact exists_named_block_iff fun block => exists_bind_pure_iff.trans exists_resourceTarget_iff
  | pods =>
      refine exists_named_block_iff fun block => ?_
      by_cases h : block.target.kind = "AverageValue"
      · simp [h, allowedTargets, pure, Except.pure]
      · simp [h, allowedTargets, throw, throwThe, MonadExceptOf.throw]
  | object =>
      exact exists_named_block_iff fun block => exists_bind_pure_iff.trans exists_valueTarget_iff
  | external =>
      exact exists_named_block_iff fun block => exists_bind_pure_iff.trans exists_valueTarget_iff

/-- **The complete specifications are those that have a source.** -/
theorem exists_source_iff : (∃ source, spec.source = .ok source) ↔ ∃ kind, spec.Complete kind := by
  constructor
  · rintro ⟨source, h⟩
    obtain ⟨kind, hkind, -, hsource⟩ := source_eq_ok_iff_sourceOf.1 h
    rw [source_of_known hkind] at h
    split_ifs at h with hothers
    exact ⟨kind, hkind, others_eq_nil_iff.1 hothers, exists_sourceOf_iff.1 ⟨source, hsource⟩⟩
  · rintro ⟨kind, hkind, halone, hblock⟩
    rw [source_of_known hkind, if_pos (others_eq_nil_iff.2 halone)]
    exact exists_sourceOf_iff.2 hblock

theorem source_of_unknown (h : ∀ kind : SourceKind, spec.kind ≠ kind.specName) :
    spec.source = .error (.unknownKind spec.kind) := by
  have hunknown : spec.sourceKind? = none :=
    Option.eq_none_iff_forall_ne_some.2 fun kind hkind =>
      h kind (SourceKind.ofSpecKind?_eq_some_iff.1 hkind)
  rw [source, hunknown]

/-- **A specification has a source exactly when it is complete**, and the source is what its block
says.  If its type is known and it has blocks that are too many, the error lists these, each once
and in order; if its type is not known, the error is about the type alone. -/
theorem source_accepts_complete (spec : MetricSpec) :
    ((∃ source, spec.source = .ok source) ↔ ∃ kind, spec.Complete kind) ∧
    (∀ source, spec.source = .ok source ↔ AsksFor spec source) ∧
    (∀ kind : SourceKind, spec.kind = kind.specName → (∃ b, spec.IsOther b) →
      ∃ others : List Block, (∀ b, b ∈ others ↔ spec.IsOther b) ∧ others.Nodup ∧
        others.Sublist Block.all ∧
        spec.source = .error (.otherBlocks kind (others.map Block.name)) ∧
        (Fault.otherBlocks kind (others.map Block.name)).message =
          "invalid " ++ kind.name ++ " metric source: " ++
            ("must not set " ++ String.intercalate ", " (others.map Block.name))) ∧
    ((∀ kind : SourceKind, spec.kind ≠ kind.specName) →
      spec.source = .error (.unknownKind spec.kind)) := by
  refine ⟨exists_source_iff, fun source => source_eq_ok_iff, fun kind hkind hothers => ?_,
    source_of_unknown⟩
  have hsome : spec.others ≠ [] := by
    obtain ⟨b, hb⟩ := hothers
    exact List.ne_nil_of_mem (mem_others_iff.2 hb)
  have hsublist : spec.others.Sublist Block.all := List.filter_sublist
  have hnodup : Block.all.Nodup := by decide
  exact ⟨spec.others, fun b => mem_others_iff, hnodup.sublist hsublist, hsublist,
    source_eq_error_otherBlocks hkind hsome, rfl⟩

/-! ### Two specifications with a block too many -/

/-- A target that is a share of what the pods request. -/
def shareTarget : MetricTarget :=
  ⟨none, none, "Utilization", none⟩

/-- Pods, without a name, beside blocks of two other types. -/
def crowded : MetricSpec where
  containerResource := some ⟨"app", "cpu", shareTarget⟩
  external := none
  object := none
  pods := some ⟨⟨"", none⟩, shareTarget⟩
  resource := some ⟨"cpu", shareTarget⟩
  kind := "Pods"

/-- A resource block, under a type that no kind of source has. -/
def perContainer : MetricSpec where
  containerResource := none
  external := none
  object := none
  pods := none
  resource := some ⟨"cpu", shareTarget⟩
  kind := "ContainerResource"

theorem source_accepts_complete_crowded :
    (∃ others : List Block, (∀ b, b ∈ others ↔ crowded.IsOther b) ∧
      crowded.source = .error (.otherBlocks .pods (others.map Block.name))) ∧
    perContainer.source = .error (.unknownKind "ContainerResource") := by
  obtain ⟨-, -, hlisted, -⟩ := source_accepts_complete crowded
  obtain ⟨-, -, -, hunknown⟩ := source_accepts_complete perContainer
  have hother : crowded.IsOther .containerResource := ⟨rfl, by decide⟩
  have hkind : ∀ kind : SourceKind, perContainer.kind ≠ kind.specName := by
    intro kind
    cases kind <;> decide
  obtain ⟨others, hmem, -, -, hsource, -⟩ := hlisted .pods rfl ⟨_, hother⟩
  exact ⟨⟨others, hmem, hsource⟩, hunknown hkind⟩

/-- **A block that is too many is not always listed**: the error may be about the type alone. -/
theorem blocks_of_unknown_type_not_listed :
    perContainer.IsOther .resource ∧
      perContainer.source = .error (.unknownKind "ContainerResource") ∧
      ∀ kind names, perContainer.source ≠ .error (.otherBlocks kind names) := by
  refine ⟨⟨rfl, by decide⟩, rfl, fun kind names h => ?_⟩
  cases h

end MetricSpec

end ScaleMetrics
