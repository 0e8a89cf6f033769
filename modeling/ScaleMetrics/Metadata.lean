import ScaleMetrics.Schema.Reference
import ScaleMetrics.Selector

/-!
# Metadata

What every object of a cluster says about itself: its name, its namespace, its labels, and when it
was created and marked for deletion.  All else that metadata may say is kept as it is written.
Times are written to the whole second.
-/

namespace ScaleMetrics

/-- The metadata of an object. -/
structure Metadata where
  creationTimestamp : Option Instant
  deletionTimestamp : Option Instant
  labels : Option Labels
  name : Option String
  /-- The namespace. -/
  space : Option String
  /-- All other known fields. -/
  other : List (String × Json)
  deriving Repr

namespace Metadata

/-- Metadata that says nothing. -/
def empty : Metadata :=
  ⟨none, none, none, none, none, []⟩

instance : Inhabited Metadata := ⟨empty⟩

/-- Reads metadata.  `levels` is how deep the containers of what is kept as it is may nest. -/
def ofJson (levels : Nat) : Json.Decoder Metadata := fun document => do
  let members ← Json.Decoder.members "ObjectMeta" document
  return {
    creationTimestamp := ← Json.field? members "creationTimestamp" Instant.ofJson
    deletionTimestamp := ← Json.field? members "deletionTimestamp" Instant.ofJson
    labels := ← Json.field? members "labels" (.dict .text)
    name := ← Json.field? members "name" .text
    space := ← Json.field? members "namespace" .text
    other := ← Schema.readOptional Schema.otherMetadata (levels - 1) members }

/-- The fields on which something depends, as they are written. -/
def usedMembers (m : Metadata) : List (String × Option Json) :=
  [("creationTimestamp", m.creationTimestamp.map Instant.toWholeJson),
    ("deletionTimestamp", m.deletionTimestamp.map Instant.toWholeJson),
    ("labels", m.labels.map (Json.ofDict .string)), ("name", m.name.map .string),
    ("namespace", m.space.map .string)]

/-- Writes metadata. -/
def toJson (m : Metadata) : Json :=
  .object (Json.present m.usedMembers ++ m.other)

end Metadata

end ScaleMetrics
