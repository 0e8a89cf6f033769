import ScaleMetrics.Pod

/-!
# Pod — Facts

What a decision about a pod needs to know of it.  The readiness of a pod is its first condition
of kind `Ready`.
-/

namespace ScaleMetrics

/-- The facts of a pod. -/
structure Facts where
  name : String
  /-- The time of creation, or else of the start. -/
  createdAt : Option Instant
  ready : Bool
  /-- When readiness last changed, if that was recorded. -/
  lastReadyTransition : Option Instant
  /-- The pod is being deleted, or it failed. -/
  terminated : Bool
  running : Bool
  deriving Repr, DecidableEq

namespace Pod

/-- The condition that tells readiness. -/
def readiness? (pod : Pod) : Option PodCondition := do
  (← (← pod.status).conditions).find? fun condition => condition.kind = "Ready"

/-- The phase of its life that the pod is in. -/
def phase? (pod : Pod) : Option String := do
  (← pod.status).phase

/-- The facts of a pod. -/
def facts (pod : Pod) : Facts where
  name := pod.name
  createdAt := pod.metadata.creationTimestamp.or (pod.status.bind (·.startTime))
  ready := pod.readiness?.any fun condition => condition.status = "True"
  lastReadyTransition := pod.readiness?.bind (·.lastTransitionTime)
  terminated := pod.metadata.deletionTimestamp.isSome || pod.phase? = some "Failed"
  running := pod.phase? = some "Running"

end Pod

namespace Facts

/-- The pod serves. -/
def runningAndReady (facts : Facts) : Bool :=
  facts.running && facts.ready

end Facts

end ScaleMetrics
