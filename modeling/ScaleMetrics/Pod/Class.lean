import ScaleMetrics.Pod.Facts
import ScaleMetrics.Sample

/-!
# Pod — Class

Whether a pod counts toward a metric.  A pod without a sample is missing.  A pod that is not
ready is ignored while it is starting up, or when it lost its readiness just before its sample was
taken; how long each lasts is set by the grace windows.  Every other pod counts.  Each class has
its condition (`classify_eq_missing_iff`, `classify_eq_ignored_iff`, `classify_eq_ready_iff`).
-/

namespace ScaleMetrics

/-- A length of time, in nanoseconds. -/
structure Duration where
  nanoseconds : Nat
  deriving Repr, DecidableEq

namespace Duration

/-- Whole seconds and nanoseconds. -/
def ofParts (seconds nanoseconds : Nat) : Duration :=
  ⟨seconds * nanosPerSecond + nanoseconds⟩

/-- Whole seconds. -/
def ofSeconds (seconds : Nat) : Duration :=
  ofParts seconds 0

/-- No time. -/
def zero : Duration :=
  ⟨0⟩

/-- The whole milliseconds. -/
def milliseconds (d : Duration) : Nat :=
  d.nanoseconds / 1000000

/-- The longest length of a window: as many milliseconds as 63 bits hold. -/
def longest : Duration :=
  ⟨0x7fffffffffffffff * 1000000⟩

/-- The length as a window, which is at most the longest. -/
def window (d : Duration) : Duration :=
  ⟨min d.nanoseconds longest.nanoseconds⟩

end Duration

/-- How long a pod that is not ready is given. -/
structure GraceWindows where
  /-- For so long after a loss of readiness a sample is not trusted. -/
  initialization : Duration
  /-- For so long after its creation a pod that was never ready is starting up. -/
  readinessDelay : Duration
  deriving Repr, DecidableEq

namespace GraceWindows

/-- No pod is given any time. -/
def disabled : GraceWindows :=
  ⟨.zero, .zero⟩

/-- The windows of two lengths of time. -/
def ofDurations (initialization readinessDelay : Duration) : GraceWindows :=
  ⟨initialization.window, readinessDelay.window⟩

/-- The windows of two signed numbers of nanoseconds.  A negative window gives a pod no time, like
an empty one. -/
def ofSigned (initialization readinessDelay : Int) : GraceWindows :=
  ⟨⟨initialization.toNat⟩, ⟨readinessDelay.toNat⟩⟩

end GraceWindows

/-- What becomes of a pod in a metric. -/
inductive PodClass where
  /-- It counts. -/
  | ready
  /-- It is left out. -/
  | ignored
  /-- It should count, but has no sample. -/
  | missing
  deriving Repr, DecidableEq

/-- The name of a class. -/
def PodClass.name : PodClass → String
  | .ready => "ready"
  | .ignored => "ignored"
  | .missing => "missing"

namespace Facts

/-- The pod was created less than the readiness delay ago.  A creation in the future counts as
just now. -/
def startingUp (facts : Facts) (windows : GraceWindows) (now : Instant) : Bool :=
  match facts.createdAt with
  | some created => max (now.since created) 0 < windows.readinessDelay.nanoseconds
  | none => false

/-- The sample was taken within the initialization window after a change of readiness. -/
def distrusted (changed : Instant) (sample : Sample) (windows : GraceWindows) : Bool :=
  let since := sample.timestamp.since changed
  0 ≤ since && since < windows.initialization.nanoseconds

/-- A pod that is not ready is left out of the metric. -/
def leftOut (facts : Facts) (sample : Sample) (windows : GraceWindows) (now : Instant) : Bool :=
  match facts.lastReadyTransition with
  | none => facts.startingUp windows now
  | some changed => distrusted changed sample windows

/-- The class of a pod. -/
def classify (facts : Facts) (sample : Option Sample) (windows : GraceWindows)
    (now : Instant) : PodClass :=
  match sample with
  | none => .missing
  | some sample =>
    if !facts.ready && facts.leftOut sample windows now then .ignored else .ready

variable {facts : Facts} {windows : GraceWindows} {now : Instant}

/-- The two ways of being left out: by the age, or by the change of readiness. -/
theorem leftOut_iff {sample : Sample} :
    facts.leftOut sample windows now = true ↔
      (∃ created, facts.lastReadyTransition = none ∧ facts.createdAt = some created ∧
        max (now.since created) 0 < windows.readinessDelay.nanoseconds) ∨
      ∃ changed, facts.lastReadyTransition = some changed ∧ 0 ≤ sample.timestamp.since changed ∧
        sample.timestamp.since changed < windows.initialization.nanoseconds := by
  rw [leftOut]
  split
  · next never =>
    rw [startingUp]
    split
    · next created known => simp [never, known]
    · next unknown => simp [never, unknown]
  · next changed known => simp [distrusted, known]

/-- Signed windows are compared as they are. -/
theorem leftOut_ofSigned_iff {sample : Sample} {initialization readinessDelay : Int} :
    facts.leftOut sample (.ofSigned initialization readinessDelay) now = true ↔
      (∃ created, facts.lastReadyTransition = none ∧ facts.createdAt = some created ∧
        max (now.since created) 0 < readinessDelay) ∨
      ∃ changed, facts.lastReadyTransition = some changed ∧ 0 ≤ sample.timestamp.since changed ∧
        sample.timestamp.since changed < initialization := by
  have hdelay : ∀ age : Int, max age 0 < (readinessDelay.toNat : Int) ↔
      max age 0 < readinessDelay := by omega
  have hinitialization : ∀ time : Int, 0 ≤ time ∧ time < (initialization.toNat : Int) ↔
      0 ≤ time ∧ time < initialization := by omega
  rw [leftOut_iff]
  simp only [GraceWindows.ofSigned, hdelay, hinitialization]

variable {sample : Option Sample}

theorem classify_eq_missing_iff : facts.classify sample windows now = .missing ↔ sample = none := by
  cases sample with
  | none => simp [classify]
  | some sample =>
    rw [classify]
    split <;> simp

theorem classify_eq_ignored_iff :
    facts.classify sample windows now = .ignored ↔
      ∃ s, sample = some s ∧ facts.ready = false ∧ facts.leftOut s windows now = true := by
  cases sample with
  | none => simp [classify]
  | some sample => simp [classify]

theorem classify_eq_ready_iff :
    facts.classify sample windows now = .ready ↔
      ∃ s, sample = some s ∧ (facts.ready = false → facts.leftOut s windows now = false) := by
  cases sample with
  | none => simp [classify]
  | some sample => simp [classify]

end Facts

end ScaleMetrics
