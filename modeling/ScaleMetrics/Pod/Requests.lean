import ScaleMetrics.GatherError
import ScaleMetrics.Pod
import ScaleMetrics.Quantity

/-!
# Pod — Requests

What the containers of each pod request of a resource, summed by pod.  Every container must
request it.  Pods and containers are visited in order, and the first fault is the result.
-/

namespace ScaleMetrics

namespace Container

/-- What the container requests. -/
def requested (c : Container) (resource : String) : Except GatherError Milli :=
  match c.request? resource with
  | none => .error (.missingRequest resource)
  | some quantity =>
    match Quantity.milli quantity with
    | .ok amount => .ok amount
    | .error e => .error (.quantity resource quantity e.message)

end Container

namespace Pod

/-- The sum so far and what one more container requests. -/
def addRequest (pod : Pod) (resource : String) (sum : Milli) (c : Container) :
    Except GatherError Milli := do
  let amount ← c.requested resource
  match sum.add? amount with
  | some sum => return sum
  | none => throw (.overflow (resource ++ " request of pod " ++ pod.name))

/-- What the containers of a pod request. -/
def request (pod : Pod) (resource : String) : Except GatherError Milli :=
  pod.containers.foldlM (pod.addRequest resource) Milli.zero

/-- What each pod requests; of pods with one name the last counts. -/
def requests (pods : List Pod) (resource : String) : Except GatherError (Dict Milli) :=
  pods.foldlM (fun sums pod => do return sums.insert pod.name (← pod.request resource)) Dict.empty

end Pod

end ScaleMetrics
