import ScaleMetrics.Proofs.Accounting
import ScaleMetrics.Proofs.Grace

/-!
# Proofs — Leniency

One population, grouped twice from the same samples, the second time with more patience: by longer
windows (`GraceWindows.Within`), or by a clock that is less far on.  Whether a pod is missing
depends on neither; what patience does is to leave out pods that counted (`leftOut_of_within`,
`leftOut_of_earlier`), and it never counts a pod that was left out (`Pod.ready_of_patience`).

`Group.Lenient` is what follows for the two groups (`lenient_ofPods`): the total and the missing
pods are the same, more names are ignored, and fewer samples are left.  Every live pod is under
one heading if names are distinct, and then as many pods are ignored as no longer count.

* `ofPods_lenient`: longer windows are more lenient, and so is an earlier clock.

The clock is compared with the times of creation.  A creation in a leap second is a second further
away at the times of day behind it than at those before it, so it can come nearer at midnight
(`leapPod_ignored_later`); the law of the clock is about instants that are no leap seconds.
-/

namespace ScaleMetrics

/-! ### Patience with one pod -/

namespace GraceWindows

/-- No window is longer than that of the others. -/
structure Within (w v : GraceWindows) : Prop where
  initialization : w.initialization.nanoseconds ≤ v.initialization.nanoseconds
  readinessDelay : w.readinessDelay.nanoseconds ≤ v.readinessDelay.nanoseconds

theorem within_ofSigned {i d i' d' : Int} (hi : i ≤ i') (hd : d ≤ d') :
    (ofSigned i d).Within (ofSigned i' d') :=
  ⟨Int.toNat_le_toNat hi, Int.toNat_le_toNat hd⟩

end GraceWindows

namespace Instant

/-- An instant that is no leap second has no more nanoseconds than a later one. -/
theorem nanoseconds_le {a b : Instant} (ha : a.isLeap = false) (h : a.le b = true) :
    a.nanoseconds ≤ b.nanoseconds := by
  have hnano : ¬ nanosPerSecond ≤ a.nano := of_decide_eq_false ha
  simp only [nanosPerSecond] at hnano
  simp only [nanoseconds, nanosPerSecond]
  rcases (le_iff a b).1 h with hsecond | ⟨hsecond, hnano⟩ <;> omega

end Instant

namespace Facts

variable {facts : Facts} {sample : Sample}

theorem leftOut_of_within {w v : GraceWindows} {now : Instant} (h : w.Within v)
    (hleft : facts.leftOut sample w now = true) : facts.leftOut sample v now = true := by
  have hinitialization := h.initialization
  have hdelay := h.readinessDelay
  rw [leftOut_iff] at hleft ⊢
  rcases hleft with ⟨created, never, known, age⟩ | ⟨changed, known, after, soon⟩
  · exact .inl ⟨created, never, known, by omega⟩
  · exact .inr ⟨changed, known, after, by omega⟩

theorem leftOut_of_earlier {windows : GraceWindows} {earlier later : Instant}
    (h : earlier.le later = true) (hearlier : earlier.isLeap = false)
    (hlater : later.isLeap = false)
    (hcreated : ∀ created, facts.createdAt = some created → created.isLeap = false)
    (hleft : facts.leftOut sample windows later = true) :
    facts.leftOut sample windows earlier = true := by
  rw [leftOut_iff] at hleft ⊢
  rcases hleft with ⟨created, never, known, age⟩ | settling
  · have hordinary := hcreated created known
    have hclock := Instant.nanoseconds_le hearlier h
    rw [Instant.since_of_ordinary hlater hordinary] at age
    refine .inl ⟨created, never, known, ?_⟩
    rw [Instant.since_of_ordinary hearlier hordinary]
    omega
  · -- how long after the change the sample was taken is no matter of the clock
    exact .inr settling

end Facts

namespace Pod

variable {series : Series} {windows v : GraceWindows} {now earlier : Instant} {pod : Pod}

/-- **A pod that counts in spite of patience** counts without it. -/
theorem ready_of_patience
    (h : pod.classIn series windows now = some .ignored →
      pod.classIn series v earlier = some .ignored)
    (hready : pod.classIn series v earlier = some .ready) :
    pod.classIn series windows now = some .ready := by
  obtain ⟨c, hc⟩ : ∃ c, pod.classIn series windows now = some c :=
    exists_classIn (live_of_classIn hready)
  cases c with
  | ready => exact hc
  | ignored =>
      rw [h hc] at hready
      cases hready
  | missing =>
      obtain ⟨sample, hs⟩ := sample_of_ready hready
      rw [no_sample_of_missing hc] at hs
      cases hs

end Pod

/-! ### Patience with a population -/

namespace Group

variable {series : Series} {w v : GraceWindows} {now now' : Instant} {pods : List Pod}

/-- The second group is the first with more patience: some of the pods that counted are ignored. -/
structure Lenient (pods : List Pod) (strict lenient : Group) : Prop where
  total : lenient.total = strict.total
  missing : lenient.missing = strict.missing
  ignored : ∀ name ∈ strict.ignored, name ∈ lenient.ignored
  ready : ∀ name sample, lenient.ready.get? name = some sample →
    strict.ready.get? name = some sample
  readyCount_le : lenient.readyCount ≤ strict.readyCount
  /-- Of live pods with distinct names, each that no longer counts is ignored. -/
  exchanged : ((live pods).map Pod.name).Nodup →
    (strict.readyCount : Int) - lenient.readyCount =
      (lenient.ignored.size : Int) - strict.ignored.size

/-- **Patience with each pod is patience with the population.** -/
theorem lenient_ofPods
    (h : ∀ pod ∈ pods, pod.classIn series w now = some .ignored →
      pod.classIn series v now' = some .ignored) :
    Lenient pods (ofPods pods series w now) (ofPods pods series v now') := by
  have hstrict := accounts_ofPods pods series w now
  have hlenient := accounts_ofPods pods series v now'
  have hmissing : (ofPods pods series v now').missing = (ofPods pods series w now).missing := by
    refine Names.ext_mem fun name => ?_
    rw [hstrict.missing, hlenient.missing]
    simp only [Placed, Pod.classIn_eq_missing_iff]
  have hready : ∀ pod ∈ pods, pod.classIn series v now' = some .ready →
      pod.classIn series w now = some .ready :=
    fun pod hmem => Pod.ready_of_patience (h pod hmem)
  refine ⟨hlenient.total.trans hstrict.total.symm, hmissing, fun name hname => ?_,
    fun name sample hs => ?_, ?_, fun hn => ?_⟩
  · obtain ⟨pod, hmem, hc, hname⟩ := (hstrict.ignored name).1 hname
    exact (hlenient.ignored name).2 ⟨pod, hmem, h pod hmem hc, hname⟩
  · obtain ⟨hsample, pod, hmem, hc, hname⟩ := (hlenient.ready name sample).1 hs
    exact (hstrict.ready name sample).2 ⟨hsample, pod, hmem, hready pod hmem hc, hname⟩
  · rw [hstrict.readyCount, hlenient.readyCount]
    refine List.countP_mono_left fun pod hmem hc => ?_
    rw [decide_eq_true_iff] at hc ⊢
    exact hready pod hmem hc
  · rw [map_name_live] at hn
    have hcounted := (hstrict.partitioned hn).counted
    have hcounted' := (hlenient.partitioned hn).counted
    rw [hmissing] at hcounted'
    omega

/-- **Longer windows and an earlier clock are lenient.**  Of the windows, none may be shorter than
before; of the clock, it is one that never reads a leap second, with pods that were created in
none. -/
theorem ofPods_lenient (pods : List Pod) (series : Series) :
    (∀ (w v : GraceWindows) (now : Instant), w.Within v →
      Lenient pods (ofPods pods series w now) (ofPods pods series v now)) ∧
    ∀ (windows : GraceWindows) (earlier later : Instant), earlier.le later = true →
      earlier.isLeap = false → later.isLeap = false →
      (∀ pod ∈ pods, ∀ created, pod.facts.createdAt = some created → created.isLeap = false) →
      Lenient pods (ofPods pods series windows later) (ofPods pods series windows earlier) := by
  constructor
  · intro w v now hwithin
    refine lenient_ofPods fun pod _ hignored => ?_
    obtain ⟨hlive, sample, hs, hunready, hleft⟩ := Pod.classIn_eq_ignored_iff.1 hignored
    exact Pod.classIn_eq_ignored_iff.2
      ⟨hlive, sample, hs, hunready, Facts.leftOut_of_within hwithin hleft⟩
  · intro windows earlier later horder hearlier hlater hcreated
    refine lenient_ofPods fun pod hmem hignored => ?_
    obtain ⟨hlive, sample, hs, hunready, hleft⟩ := Pod.classIn_eq_ignored_iff.1 hignored
    exact Pod.classIn_eq_ignored_iff.2 ⟨hlive, sample, hs, hunready,
      Facts.leftOut_of_earlier horder hearlier hlater (hcreated pod hmem) hleft⟩

/-- A minute after the start of 1970. -/
def minuteLater : Instant :=
  (Instant.of? 60 0).getD .epoch

theorem ofPods_lenient_oneOfEach :
    let grouped := ofPods oneOfEach twoSamples
    let halfMinute := GraceWindows.ofSigned 0 30000000000
    ((GraceWindows.ofSigned (-5) 0).Within halfMinute ∧
      Lenient oneOfEach (grouped (.ofSigned (-5) 0) .epoch) (grouped halfMinute .epoch)) ∧
    (Instant.epoch.le minuteLater = true ∧ Instant.epoch.isLeap = false ∧
      minuteLater.isLeap = false ∧
      (∀ pod ∈ oneOfEach, ∀ created, pod.facts.createdAt = some created →
        created.isLeap = false) ∧
      Lenient oneOfEach (grouped halfMinute minuteLater) (grouped halfMinute .epoch)) ∧
    ((live oneOfEach).map Pod.name).Nodup ∧
      ((grouped halfMinute minuteLater).readyCount : Int) -
          (grouped halfMinute .epoch).readyCount =
        ((grouped halfMinute .epoch).ignored.size : Int) -
          (grouped halfMinute minuteLater).ignored.size := by
  intro grouped halfMinute
  have hwithin : (GraceWindows.ofSigned (-5) 0).Within halfMinute :=
    GraceWindows.within_ofSigned (by decide) (by decide)
  have hcreated : ∀ pod ∈ oneOfEach, ∀ created, pod.facts.createdAt = some created →
      created.isLeap = false := by
    simp only [oneOfEach, List.forall_mem_cons]
    refine ⟨?_, ?_, ?_, ?_, by simp⟩ <;> rintro created ⟨⟩ <;> rfl
  have hnodup : ((live oneOfEach).map Pod.name).Nodup := by decide
  obtain ⟨hwindows, hclock⟩ := ofPods_lenient oneOfEach twoSamples
  have hlater := hclock halfMinute .epoch minuteLater (by decide) (by decide) (by decide) hcreated
  exact ⟨⟨hwithin, hwindows _ _ _ hwithin⟩, ⟨by decide, by decide, by decide, hcreated, hlater⟩,
    hnodup, hlater.exchanged hnodup⟩

/-- The pod that was just created counts a minute later. -/
example :
    (ofPods oneOfEach twoSamples ⟨.zero, .ofSeconds 30⟩ minuteLater).readyCount = 2 := by
  decide

/-- A pod that was never ready, created in a leap second at one in the afternoon. -/
def leapPod : Pod where
  metadata := ⟨Instant.of? 46799 1000000000, none, none, some "web-0", none, []⟩
  spec := none
  status := none

/-- A tenth of a second before the second day. -/
def eveningLate : Instant :=
  (Instant.of? 86399 900000000).getD .epoch

/-- A tenth of a second into the second day. -/
def nightEarly : Instant :=
  (Instant.of? 86400 100000000).getD .epoch

/-- **The age of a leap second can fall at midnight**: the pod counts in the evening, when its age
is 39600.9 s, and is ignored at night, when it is 39600.1 s. -/
theorem leapPod_ignored_later :
    let windows : GraceWindows := ⟨.zero, .ofParts 39600 500000000⟩
    let grouped := ofPods [leapPod] twoSamples windows
    eveningLate.le nightEarly = true ∧ eveningLate.isLeap = false ∧ nightEarly.isLeap = false ∧
      (grouped eveningLate).readyCount = 1 ∧ (grouped nightEarly).readyCount = 0 ∧
      ¬ Lenient [leapPod] (grouped nightEarly) (grouped eveningLate) := by
  intro windows grouped
  exact ⟨by decide, by decide, by decide, by decide, by decide,
    fun h => absurd h.readyCount_le (by decide)⟩

end Group

end ScaleMetrics
