import Mathlib
import ScaleMetrics.Pod.Class

/-!
# Proofs — Grace

When a pod that is not ready is given time, told in exact nanoseconds.  `Facts.Excused` is the
rule: a pod that was never ready is excused while it is younger than the readiness delay, and one
whose readiness has changed while its sample is from the initialization window behind the change.
The windows of the rule are any integers, and nothing in it is cut off or rounded.

* `leftOut_iff_excused`: the windows that pods are classified by follow the rule, at instants that
  are no leap seconds.
* `since_lt_longest`: no two instants are as far apart as the longest window, leap seconds or not,
  so a length that is cut to that window leaves out the same pods (`leftOut_ofDurations`).
* `time_of_leftOut`: only a window of some length leaves a pod out.
* `classify_by_lengths`: the class of a pod by two lengths of time.
-/

namespace ScaleMetrics

/-! ### How far instants are apart -/

namespace Instant

theorem leapAdjustment_le (a b : Instant) : a.leapAdjustment b ≤ 1 := by
  rw [leapAdjustment]
  split
  · split <;> decide
  · split
    · split <;> decide
    · decide

/-- **The longest window** is longer than all time between instants. -/
theorem since_lt_longest (a b : Instant) : a.since b < Duration.longest.nanoseconds := by
  have hleap := leapAdjustment_le a b
  have hseconds : a.second - b.second + a.leapAdjustment b ≤ 16544868105600 := by
    have := a.le_last
    have := b.first_le
    omega
  have hnano := a.nano_lt
  simp only [since, nanosPerSecond, Duration.longest] at hnano ⊢
  omega

end Instant

/-- A time shorter than the longest window is compared with a length as with its window. -/
theorem Duration.lt_window_iff {time : Int} (h : time < longest.nanoseconds) (d : Duration) :
    time < d.window.nanoseconds ↔ time < d.nanoseconds := by
  simp only [window]
  omega

namespace Facts

variable {facts : Facts} {sample : Sample} {windows : GraceWindows} {now : Instant}

/-! ### The rule -/

/-- The pod is given time.  It has never been ready and is younger than the readiness delay, where a
creation ahead of the clock counts as age zero; or its readiness has changed, and the sample is not
before the change and not behind the initialization window that begins with it. -/
inductive Excused (initialization readinessDelay : Int) (facts : Facts) (sample : Sample)
    (now : Instant) : Prop where
  | young {created : Instant} (never : facts.lastReadyTransition = none)
      (known : facts.createdAt = some created)
      (age : max (now.nanoseconds - created.nanoseconds) 0 < readinessDelay)
  | settling {changed : Instant} (known : facts.lastReadyTransition = some changed)
      (after : changed.nanoseconds ≤ sample.timestamp.nanoseconds)
      (soon : sample.timestamp.nanoseconds < changed.nanoseconds + initialization)

/-- None of the instants that the class of a pod depends on is in a leap second. -/
structure Ordinary (facts : Facts) (sample : Sample) (now : Instant) : Prop where
  now : now.isLeap = false
  timestamp : sample.timestamp.isLeap = false
  createdAt : ∀ created, facts.createdAt = some created → created.isLeap = false
  transition : ∀ changed, facts.lastReadyTransition = some changed → changed.isLeap = false

/-- **The windows follow the rule.** -/
theorem leftOut_iff_excused (h : Ordinary facts sample now) :
    facts.leftOut sample windows now = true ↔
      Excused windows.initialization.nanoseconds windows.readinessDelay.nanoseconds facts sample
        now := by
  rw [leftOut_iff]
  constructor
  · rintro (⟨created, never, known, age⟩ | ⟨changed, known, after, soon⟩)
    · rw [Instant.since_of_ordinary h.now (h.createdAt created known)] at age
      exact .young never known age
    · rw [Instant.since_of_ordinary h.timestamp (h.transition changed known)] at after soon
      exact .settling known (by omega) (by omega)
  · rintro (@⟨created, never, known, age⟩ | @⟨changed, known, after, soon⟩)
    · refine .inl ⟨created, never, known, ?_⟩
      rwa [Instant.since_of_ordinary h.now (h.createdAt created known)]
    · refine .inr ⟨changed, known, ?_⟩
      rw [Instant.since_of_ordinary h.timestamp (h.transition changed known)]
      omega

/-! ### Lengths and their windows -/

/-- **Cutting a length** to the longest window changes nothing. -/
theorem leftOut_ofDurations (facts : Facts) (sample : Sample)
    (initialization readinessDelay : Duration) (now : Instant) :
    facts.leftOut sample (.ofDurations initialization readinessDelay) now =
      facts.leftOut sample ⟨initialization, readinessDelay⟩ now := by
  have hage : ∀ created, max (now.since created) 0 < readinessDelay.window.nanoseconds ↔
      max (now.since created) 0 < readinessDelay.nanoseconds := fun created =>
    Duration.lt_window_iff (max_lt (now.since_lt_longest created) (by decide)) readinessDelay
  have hsoon : ∀ changed, sample.timestamp.since changed < initialization.window.nanoseconds ↔
      sample.timestamp.since changed < initialization.nanoseconds := fun changed =>
    Duration.lt_window_iff (sample.timestamp.since_lt_longest changed) initialization
  rw [Bool.eq_iff_iff, leftOut_iff, leftOut_iff]
  simp only [GraceWindows.ofDurations, hage, hsoon]

theorem classify_ofDurations (facts : Facts) (sample : Option Sample)
    (initialization readinessDelay : Duration) (now : Instant) :
    facts.classify sample (.ofDurations initialization readinessDelay) now =
      facts.classify sample ⟨initialization, readinessDelay⟩ now := by
  cases sample with
  | none => rfl
  | some sample => rw [classify, classify, leftOut_ofDurations]

/-- **Only time leaves a pod out**, whatever the clocks say. -/
theorem time_of_leftOut (h : facts.leftOut sample windows now = true) :
    facts.lastReadyTransition = none ∧ 0 < windows.readinessDelay.nanoseconds ∨
      facts.lastReadyTransition ≠ none ∧ 0 < windows.initialization.nanoseconds := by
  rcases leftOut_iff.1 h with ⟨created, never, -, age⟩ | ⟨changed, known, after, soon⟩
  · exact .inl ⟨never, by omega⟩
  · exact .inr ⟨by simp [known], by omega⟩

/-! ### The class of a pod -/

/-- **The class of a pod by two lengths of time**, which may be longer than any window.  A pod
without a sample is missing.  Among ordinary instants, one with a sample is ignored if it is not
ready and the lengths excuse it, and is ready otherwise.  The class is that of the lengths
themselves, and a pod is ignored only by a length that is not zero. -/
theorem classify_by_lengths (facts : Facts) (sample : Option Sample)
    (initialization readinessDelay : Duration) (now : Instant) :
    let windows := GraceWindows.ofDurations initialization readinessDelay
    let excused := fun s =>
      Excused initialization.nanoseconds readinessDelay.nanoseconds facts s now
    (facts.classify sample windows now = .missing ↔ sample = none) ∧
    ((∀ s, sample = some s → Ordinary facts s now) →
      (facts.classify sample windows now = .ignored ↔
        ∃ s, sample = some s ∧ facts.ready = false ∧ excused s) ∧
      (facts.classify sample windows now = .ready ↔
        ∃ s, sample = some s ∧ ¬ (facts.ready = false ∧ excused s))) ∧
    facts.classify sample windows now =
      facts.classify sample ⟨initialization, readinessDelay⟩ now ∧
    (facts.classify sample windows now = .ignored →
      facts.lastReadyTransition = none ∧ 0 < readinessDelay.nanoseconds ∨
        facts.lastReadyTransition ≠ none ∧ 0 < initialization.nanoseconds) := by
  intro windows excused
  have hcut : facts.classify sample windows now =
      facts.classify sample ⟨initialization, readinessDelay⟩ now := classify_ofDurations ..
  rw [hcut]
  refine ⟨classify_eq_missing_iff, fun hordinary => ⟨?_, ?_⟩, rfl, fun hignored => ?_⟩
  · rw [classify_eq_ignored_iff]
    refine exists_congr fun s => and_congr_right fun hs => and_congr_right fun _ => ?_
    exact leftOut_iff_excused (hordinary s hs)
  · rw [classify_eq_ready_iff]
    refine exists_congr fun s => and_congr_right fun hs => ?_
    rw [not_and]
    refine imp_congr_right fun _ => Bool.eq_false_iff.trans ?_
    exact not_congr (leftOut_iff_excused (hordinary s hs))
  · obtain ⟨s, -, -, hleft⟩ := classify_eq_ignored_iff.1 hignored
    exact time_of_leftOut hleft

/-- A pod that was created at the start of 1970 and has never been ready. -/
def neverReady : Facts :=
  ⟨"web-0", some .epoch, false, none, false, true⟩

/-- The longest length that whole seconds of 64 bits and nanoseconds make. -/
def longestLength : Duration :=
  .ofParts 0xffffffffffffffff 999999999

theorem classify_by_lengths_neverReady :
    Ordinary neverReady ⟨.epoch, .zero⟩ .epoch ∧
      longestLength.window ≠ longestLength ∧
      neverReady.classify (some ⟨.epoch, .zero⟩) (.ofDurations .zero longestLength) .epoch =
        .ignored ∧
      (neverReady.lastReadyTransition = none ∧ 0 < longestLength.nanoseconds ∨
        neverReady.lastReadyTransition ≠ none ∧ 0 < Duration.zero.nanoseconds) := by
  have hordinary : Ordinary neverReady ⟨.epoch, .zero⟩ .epoch := by
    refine ⟨rfl, rfl, ?_, ?_⟩
    · rintro created ⟨⟩
      rfl
    · rintro changed ⟨⟩
  obtain ⟨-, hrule, -, htime⟩ :=
    classify_by_lengths neverReady (some ⟨.epoch, .zero⟩) .zero longestLength .epoch
  have hexcused : Excused Duration.zero.nanoseconds longestLength.nanoseconds neverReady
      ⟨.epoch, .zero⟩ .epoch := .young rfl rfl (by decide)
  have hignored := (hrule fun s hs => Option.some.inj hs ▸ hordinary).1.2 ⟨_, rfl, rfl, hexcused⟩
  exact ⟨hordinary, by decide, hignored, htime hignored⟩

end Facts

end ScaleMetrics
