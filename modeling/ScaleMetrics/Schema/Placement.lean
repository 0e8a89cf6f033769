import ScaleMetrics.Schema.Reference

/-!
# Schema — Placement

Where a pod may run: the nodes it prefers, the pods it wants near, the taints it stands, and how
pods spread.
-/

namespace ScaleMetrics.Schema

/-- Two fields of an affinity: what is preferred, with weights, and what is required. -/
def affinityRules (preferred required : Schema) : Schema :=
  .object []
    [("preferredDuringSchedulingIgnoredDuringExecution", .list preferred),
      ("requiredDuringSchedulingIgnoredDuringExecution", required)]

/-- Conditions on a node. -/
def nodeTerm : Schema :=
  .object [] (each (.list condition) ["matchExpressions", "matchFields"])

/-- The nodes to run on. -/
def nodeAffinity : Schema :=
  affinityRules (.object ([("preference", nodeTerm)] ++ int32s ["weight"]) [])
    (.object [("nodeSelectorTerms", .list nodeTerm)] [])

/-- Pods in the same part of the cluster. -/
def podTerm : Schema :=
  .object (texts ["topologyKey"])
    (each labelSelector ["labelSelector", "namespaceSelector"] ++ textLists ["namespaces"])

/-- The pods to run near, or away from. -/
def podAffinity : Schema :=
  affinityRules (.object ([("podAffinityTerm", podTerm)] ++ int32s ["weight"]) []) (.list podTerm)

/-- All affinities of a pod. -/
def affinity : Schema :=
  .object []
    [("nodeAffinity", nodeAffinity), ("podAffinity", podAffinity), ("podAntiAffinity", podAffinity)]

/-- A taint that a pod stands. -/
def toleration : Schema :=
  .object [] (texts ["effect", "key", "operator", "value"] ++ int64s ["tolerationSeconds"])

/-- How evenly pods spread. -/
def spreadConstraint : Schema :=
  .object (int32s ["maxSkew"] ++ texts ["topologyKey", "whenUnsatisfiable"])
    (texts ["nodeAffinityPolicy", "nodeTaintsPolicy"] ++ int32s ["minDomains"] ++
      textLists ["matchLabelKeys"] ++ [("labelSelector", labelSelector)])

end ScaleMetrics.Schema
