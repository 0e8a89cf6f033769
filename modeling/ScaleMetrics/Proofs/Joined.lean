import ScaleMetrics.Proofs.Accounting

/-!
# Proofs — Joined

Populations that are grouped apart and taken together.  Two groups by one series, the same windows
and the same clock never hold different samples of one name (`Accounts.agree`), so it does not
matter which of them a sample is taken from (`Accounts.get?_union`), and the group of both
populations is the join of their groups (`Accounts.join`).  That is so for pods that share a name,
and for pods without one.

* `ofPods_compositional`: the group of two populations; the order of the pods; and the samples
  that a group depends on.
-/

namespace ScaleMetrics

namespace Group

variable {series : Series} {windows : GraceWindows} {now : Instant}

/-! ### Two groups -/

namespace Accounts

variable {pods others : List Pod} {group group' : Group}

/-- **Samples of one name agree.** -/
theorem agree (h : Accounts series windows now pods group)
    (h' : Accounts series windows now others group') {name : String} {a b : Sample}
    (ha : group.ready.get? name = some a) (hb : group'.ready.get? name = some b) : a = b := by
  have hsame : some a = some b :=
    ((h.ready name a).1 ha).1.symm.trans ((h'.ready name b).1 hb).1
  exact Option.some.inj hsame

/-- The samples of two groups are those of either. -/
theorem get?_union (h : Accounts series windows now pods group)
    (h' : Accounts series windows now others group') {name : String} {sample : Sample} :
    (group.ready.union group'.ready).get? name = some sample ↔
      group.ready.get? name = some sample ∨ group'.ready.get? name = some sample := by
  rw [Dict.get?_union, Option.or_eq_some_iff]
  constructor
  · rintro (found | ⟨-, found⟩)
    · exact .inr found
    · exact .inl found
  · rintro (found | found)
    · -- where the second group has a sample of that name too, it is this one
      cases hother : group'.ready.get? name with
      | none => exact .inr ⟨rfl, found⟩
      | some sample' => exact .inl (congrArg some (h.agree h' found hother).symm)
    · exact .inl found

/-- **Populations taken together.** -/
theorem join (h : Accounts series windows now pods group)
    (h' : Accounts series windows now others group') :
    Accounts series windows now (pods ++ others) (group.join group') where
  total := by rw [List.length_append, ← h.total, ← h'.total, Group.join]
  readyCount := by rw [List.countP_append, ← h.readyCount, ← h'.readyCount, Group.join]
  missing := fun name => by
    rw [Group.join, Names.mem_union, h.missing, h'.missing, placed_append]
  ignored := fun name => by
    rw [Group.join, Names.mem_union, h.ignored, h'.ignored, placed_append]
  ready := fun name sample => by
    rw [Group.join, h.get?_union h', h.ready, h'.ready, placed_append, and_or_left]

end Accounts

/-! ### The group of a population -/

/-- **A group is made of the groups of its parts.**  The group of two populations is the join of
theirs: their counts are added and their sets united, and so are their samples, which agree on every
name that both have.  The order of the pods does not matter; and of the samples, only those of live
pods do. -/
theorem ofPods_compositional (series : Series) (windows : GraceWindows) (now : Instant) :
    (∀ pods others : List Pod,
      ofPods (pods ++ others) series windows now =
        (ofPods pods series windows now).join (ofPods others series windows now) ∧
      ∀ name a b, (ofPods pods series windows now).ready.get? name = some a →
        (ofPods others series windows now).ready.get? name = some b → a = b) ∧
    (∀ pods others : List Pod, pods.Perm others →
      ofPods pods series windows now = ofPods others series windows now) ∧
    ∀ (pods : List Pod) (other : Series),
      (∀ pod ∈ pods, pod.Live → series.get? pod.name = other.get? pod.name) →
      ofPods pods series windows now = ofPods pods other windows now := by
  refine ⟨fun pods others => ?_, fun pods others hperm => ofPods_perm hperm,
    fun pods other hagree => ofPods_congr fun pod hmem hlive =>
      hagree pod hmem (Pod.live_iff.2 hlive)⟩
  have haccounts := accounts_ofPods pods series windows now
  have haccounts' := accounts_ofPods others series windows now
  refine ⟨?_, fun name a b => haccounts.agree haccounts'⟩
  exact (accounts_ofPods (pods ++ others) series windows now).unique (haccounts.join haccounts')

/-- Pods that share names: two that serve, one of them without a name, and one that failed. -/
def firstShift : List Pod :=
  [namedPod "web-0" "True" "Running", namedPod "" "True" "Running",
    namedPod "web-1" "True" "Failed"]

/-- Pods of the same names, of which one without a name was just created. -/
def secondShift : List Pod :=
  [namedPod "web-0" "True" "Running", namedPod "" "False" "Running"]

/-- A sample of every name. -/
def shiftSamples : Series :=
  .ofList [("", ⟨.epoch, .zero⟩), ("web-0", ⟨.epoch, .zero⟩), ("web-1", ⟨.epoch, .zero⟩)]

/-- The samples of the live pods, and of a pod that is not there. -/
def liveSamples : Series :=
  .ofList [("", ⟨.epoch, .zero⟩), ("web-0", ⟨.epoch, .zero⟩), ("web-9", ⟨.epoch, .zero⟩)]

theorem ofPods_compositional_shifts :
    let groupOf := fun pods series => ofPods pods series ⟨.zero, .ofSeconds 30⟩ .epoch
    (groupOf (firstShift ++ secondShift) shiftSamples =
        (groupOf firstShift shiftSamples).join (groupOf secondShift shiftSamples) ∧
      ∃ a b, (groupOf firstShift shiftSamples).ready.get? "web-0" = some a ∧
        (groupOf secondShift shiftSamples).ready.get? "web-0" = some b ∧ a = b) ∧
    (firstShift.Perm firstShift.reverse ∧
      groupOf firstShift shiftSamples = groupOf firstShift.reverse shiftSamples) ∧
    (∀ pod ∈ firstShift, pod.Live → shiftSamples.get? pod.name = liveSamples.get? pod.name) ∧
      groupOf firstShift shiftSamples = groupOf firstShift liveSamples := by
  intro groupOf
  obtain ⟨hjoin, hperm, hframe⟩ :=
    ofPods_compositional shiftSamples ⟨.zero, .ofSeconds 30⟩ .epoch
  have hfirst : (groupOf firstShift shiftSamples).ready.get? "web-0" = some ⟨.epoch, .zero⟩ := by
    decide
  have hsecond : (groupOf secondShift shiftSamples).ready.get? "web-0" = some ⟨.epoch, .zero⟩ := by
    decide
  have horder : firstShift.Perm firstShift.reverse := (List.reverse_perm firstShift).symm
  have hagree : ∀ pod ∈ firstShift, pod.Live →
      shiftSamples.get? pod.name = liveSamples.get? pod.name := by decide
  obtain ⟨htogether, hsame⟩ := hjoin firstShift secondShift
  exact ⟨⟨htogether, _, _, hfirst, hsecond, hsame _ _ _ hfirst hsecond⟩,
    ⟨horder, hperm _ _ horder⟩, hagree, hframe _ _ hagree⟩

end Group

end ScaleMetrics
