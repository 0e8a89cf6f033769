import ScaleMetrics.Bounded
import ScaleMetrics.Instant.Printer
import ScaleMetrics.Instant.Reader

/-!
# Sample

What a metrics source measured of one pod, and a series of such samples by pod name.
-/

namespace ScaleMetrics

/-- A measured amount. -/
structure Sample where
  timestamp : Instant
  value : Milli
  deriving Repr, DecidableEq

/-- Samples by pod name. -/
abbrev Series := Dict Sample

/-- A time as samples and metrics write it. -/
def Instant.toJson (a : Instant) : Json :=
  .string a.text

namespace Sample

/-- Reads a sample. -/
def ofJson : Json.Decoder Sample := fun document => do
  let fields ← Json.recordFields "sample" ["timestamp", "value"] document
  let timestamp ← Json.required fields "timestamp" Instant.ofJson
  let value ← Json.required fields "value" .signed64
  return ⟨timestamp, value⟩

/-- Writes a sample. -/
def toJson (s : Sample) : Json :=
  Json.record [("timestamp", some s.timestamp.toJson), ("value", some (Json.ofBounded s.value))]

end Sample

namespace Series

/-- Reads a series. -/
def ofJson : Json.Decoder Series :=
  .dict Sample.ofJson

/-- Writes a series. -/
def toJson : Series → Json :=
  Json.ofDict Sample.toJson

/-- The time of the latest sample. -/
def latest? (series : Series) : Option Instant :=
  Instant.latest? (series.values.map (·.timestamp))

end Series

end ScaleMetrics
