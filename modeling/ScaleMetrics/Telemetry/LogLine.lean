import ScaleMetrics.Instant.Printer
import ScaleMetrics.Json.Printer
import ScaleMetrics.Settings
import ScaleMetrics.Telemetry

/-!
# Telemetry — LogLine

Events as lines of a log, as JSON or as text.
-/

namespace ScaleMetrics.Event

/-- The record of an event at a time. -/
def record (now : Instant) (event : Event) : Json :=
  .object
    [("timestamp", .string now.text), ("level", .string event.level.name),
      ("fields", .object (text "message" event.message :: event.fields)),
      ("target", .string event.component.path)]

/-- The text fields of an event that a line of text shows between quotes. -/
def quotedFields : Event → List String
  | .metricFailed .. => ["source", "metric"]
  | .runStarted .. | .runPartial .. | .runComplete .. | .runFailed .. => ["event"]
  | _ => []

/-- A field in a line of text; a text that is not quoted stands as it is. -/
def fieldText (quoted : List String) (field : String × Json) : String :=
  let value := match field.2 with
    | .string s => if quoted.contains field.1 then Text.quoted s else s
    | other => other.render
  field.1 ++ "=" ++ value

/-- The name of a level, with blanks in front up to the width of the longest. -/
def levelText (level : Level) : String :=
  String.ofList (List.replicate (5 - level.name.length) ' ') ++ level.name

/-- The line of an event; a text field that is not quoted can break it. -/
def logLine (format : LogFormat) (now : Instant) (event : Event) : String :=
  match format with
  | .json => (event.record now).render
  | .text =>
    String.intercalate " " <|
      [now.text, levelText event.level, event.component.path ++ ":", event.message] ++
        event.fields.map (fieldText event.quotedFields)

end ScaleMetrics.Event
