import ScaleMetrics.Pod.Class

/-!
# Pod — Group

A population of pods, grouped by class.  A pod that is being deleted or has failed counts in the
total only; a sample of a pod outside the population counts nowhere.
-/

namespace ScaleMetrics

/-- A grouped population. -/
structure Group where
  /-- The pods that count. -/
  readyCount : Nat
  /-- All pods of the population. -/
  total : Nat
  missing : Names
  ignored : Names
  /-- The samples of the pods that count. -/
  ready : Series
  deriving Repr, DecidableEq

namespace Group

/-- The group of no pods. -/
def empty : Group :=
  ⟨0, 0, Names.empty, Names.empty, Dict.empty⟩

/-- One more pod, which is not terminated, with its sample. -/
def place (group : Group) (name : String) (sample : Option Sample) : PodClass → Group
  | .missing => { group with missing := group.missing.insert name }
  | .ignored => { group with ignored := group.ignored.insert name }
  | .ready =>
    { group with
      readyCount := group.readyCount + 1
      ready := match sample with
        | some sample => group.ready.insert name sample
        | none => group.ready }

/-- One more pod. -/
def add (series : Series) (windows : GraceWindows) (now : Instant) (group : Group)
    (facts : Facts) : Group :=
  let group := { group with total := group.total + 1 }
  if facts.terminated then group
  else
    let sample := series.get? facts.name
    group.place facts.name sample (facts.classify sample windows now)

/-- The population, grouped by what the series tells of each pod. -/
def ofPods (pods : List Pod) (series : Series) (windows : GraceWindows) (now : Instant) : Group :=
  (pods.map Pod.facts).foldl (add series windows now) empty

/-- Two groups taken together. -/
def join (a b : Group) : Group where
  readyCount := a.readyCount + b.readyCount
  total := a.total + b.total
  missing := a.missing.union b.missing
  ignored := a.ignored.union b.ignored
  ready := a.ready.union b.ready

end Group

end ScaleMetrics
