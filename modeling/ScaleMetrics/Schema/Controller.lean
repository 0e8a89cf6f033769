import ScaleMetrics.Schema.Pod

/-!
# Schema — Controller

What controllers of each kind keep up and what became of it, as far as no decision depends on it.
-/

namespace ScaleMetrics.Schema

/-- The known fields of an object. -/
structure Fields where
  needed : List (String × Schema)
  optional : List (String × Schema)
  deriving Repr

/-- Reads the fields of an object. -/
def Fields.read (fields : Fields) (levels : Nat) (members : List (String × Json)) :
    Except Json.DecodeError (List (String × Json)) := do
  let needed ← readNeeded fields.needed levels members
  let optional ← readOptional fields.optional levels members
  return needed ++ optional

/-- A condition of a controller. -/
def controllerCondition : Schema :=
  .object (texts ["status", "type"])
    (texts ["message", "reason"] ++ [("lastTransitionTime", .time)])

/-! ### Deployments -/

/-- How pods are replaced. -/
def deploymentStrategy : Schema :=
  .object []
    (texts ["type"] ++
      [("rollingUpdate", .object [] (each .intOrText ["maxSurge", "maxUnavailable"]))])

/-- All fields of the specification of a deployment but its selector. -/
def otherDeployment : Fields where
  needed := [("template", podTemplate)]
  optional :=
    int32s ["minReadySeconds", "progressDeadlineSeconds", "replicas", "revisionHistoryLimit"] ++
      flags ["paused"] ++ [("strategy", deploymentStrategy)]

/-- A condition of a deployment. -/
def deploymentCondition : Schema :=
  .object (texts ["status", "type"])
    (texts ["message", "reason"] ++ each .time ["lastTransitionTime", "lastUpdateTime"])

/-- The status of a deployment. -/
def deploymentStatus : Schema :=
  .object []
    (int32s ["availableReplicas", "collisionCount", "readyReplicas", "replicas",
        "unavailableReplicas", "updatedReplicas"] ++
      int64s ["observedGeneration"] ++ [("conditions", .list deploymentCondition)])

/-! ### Stateful sets -/

/-- How pods are replaced in order. -/
def statefulSetStrategy : Schema :=
  .object []
    (texts ["type"] ++
      [("rollingUpdate", .object [] (int32s ["partition"] ++ [("maxUnavailable", .intOrText)]))])

/-- All fields of the specification of a stateful set but its selector. -/
def otherStatefulSet : Fields where
  needed := texts ["serviceName"] ++ [("template", podTemplate)]
  optional :=
    texts ["podManagementPolicy"] ++
      int32s ["minReadySeconds", "replicas", "revisionHistoryLimit"] ++
      [("ordinals", .object [] (int32s ["start"])),
        ("persistentVolumeClaimRetentionPolicy",
          .object [] (texts ["whenDeleted", "whenScaled"])),
        ("updateStrategy", statefulSetStrategy), ("volumeClaimTemplates", .list claim)]

/-- The status of a stateful set. -/
def statefulSetStatus : Schema :=
  .object (int32s ["replicas"])
    (texts ["currentRevision", "updateRevision"] ++
      int32s ["availableReplicas", "collisionCount", "currentReplicas", "readyReplicas",
        "updatedReplicas"] ++
      int64s ["observedGeneration"] ++ [("conditions", .list controllerCondition)])

/-! ### Replica sets -/

/-- All fields of the specification of a replica set but its selector. -/
def otherReplicaSet : Fields where
  needed := []
  optional := int32s ["minReadySeconds", "replicas"] ++ [("template", podTemplate)]

/-- The status of a replica set. -/
def replicaSetStatus : Schema :=
  .object (int32s ["replicas"])
    (int32s ["availableReplicas", "fullyLabeledReplicas", "readyReplicas"] ++
      int64s ["observedGeneration"] ++ [("conditions", .list controllerCondition)])

end ScaleMetrics.Schema
