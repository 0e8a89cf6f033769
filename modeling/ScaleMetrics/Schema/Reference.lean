import ScaleMetrics.Schema

/-!
# Schema — Reference

How resources refer to others and to parts of them: by name, by key, by path, by labels; and the
metadata that every resource has.
-/

namespace ScaleMetrics.Schema

/-- Another object of the same namespace. -/
def named : Schema :=
  .object [] (texts ["name"])

/-- An object of which the name must be there. -/
def entry : Schema :=
  .object (texts ["name"]) []

/-- A setting of a name and a value. -/
def setting : Schema :=
  .object (texts ["name", "value"]) []

/-- The value at a key of another object. -/
def keyRef : Schema :=
  .object (texts ["key"]) (texts ["name"] ++ flags ["optional"])

/-- All values of another object. -/
def valuesRef : Schema :=
  .object [] (texts ["name"] ++ flags ["optional"])

/-- A field of the object itself. -/
def fieldRef : Schema :=
  .object (texts ["fieldPath"]) (texts ["apiVersion"])

/-- What a container of the object may use of a resource. -/
def resourceFieldRef : Schema :=
  .object (texts ["resource"]) (texts ["containerName", "divisor"])

/-- A condition on labels or fields. -/
def condition : Schema :=
  .object (texts ["key", "operator"]) (textLists ["values"])

/-- A written selector of labels. -/
def labelSelector : Schema :=
  .object [] [("matchExpressions", .list condition), ("matchLabels", .dict .text)]

/-- An object that owns another. -/
def ownerReference : Schema :=
  .object (texts ["apiVersion", "kind", "name", "uid"]) (flags ["blockOwnerDeletion", "controller"])

/-- The fields of an object that one manager set. -/
def managedFields : Schema :=
  .object []
    (texts ["apiVersion", "fieldsType", "manager", "operation", "subresource"] ++
      [("fieldsV1", .anything), ("time", .time)])

/-- The fields of metadata on which something depends. -/
def usedMetadata : List (String × Schema) :=
  [("creationTimestamp", .time), ("deletionTimestamp", .time), ("labels", .dict .text),
    ("name", .text), ("namespace", .text)]

/-- All other fields of metadata. -/
def otherMetadata : List (String × Schema) :=
  [("annotations", .dict .text), ("deletionGracePeriodSeconds", .int64),
    ("finalizers", .list .text), ("generateName", .text), ("generation", .int64),
    ("managedFields", .list managedFields), ("ownerReferences", .list ownerReference),
    ("resourceVersion", .text), ("selfLink", .text), ("uid", .text)]

/-- The metadata of an object. -/
def metadata : Schema :=
  .object [] (usedMetadata ++ otherMetadata)

end ScaleMetrics.Schema
