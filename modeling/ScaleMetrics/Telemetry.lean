import ScaleMetrics.GatherError
import ScaleMetrics.MetricSpec

/-!
# Telemetry

What a run leaves behind besides its result, as a list of steps in their order: the questions put
to the cluster, the events for the log, and the changes of counters and gauges.
-/

namespace ScaleMetrics

/-- How much an event matters. -/
inductive Level where
  | error
  | warn
  | info
  | debug
  | trace
  deriving Repr, DecidableEq

/-- The name of a level. -/
def Level.name : Level → String
  | .error => "ERROR"
  | .warn => "WARN"
  | .info => "INFO"
  | .debug => "DEBUG"
  | .trace => "TRACE"

/-- How much detail a level admits: an event is logged when its level has no more than allowed. -/
def Level.detail : Level → Nat
  | .error => 1
  | .warn => 2
  | .info => 3
  | .debug => 4
  | .trace => 5

/-- The parts of the program that log events. -/
inductive Component where
  | commandLine
  | gather
  | resource
  | pods
  | external
  | readiness
  | report
  deriving Repr, DecidableEq

/-- The path that a log filter knows a component by. -/
def Component.path : Component → String
  | .commandLine => "k8s_gather"
  | .gather => "gather_lib::gather"
  | .resource => "gather_lib::gather::resource"
  | .pods => "gather_lib::gather::pods"
  | .external => "gather_lib::gather::external"
  | .readiness => "gather_lib::podutil::ready"
  | .report => "gather_lib::observability"

/-- Events for the log. -/
inductive Event where
  | loadedSnapshot (source : String) (pods specs : Nat)
  | groupedPods (resource space : String) (total ready ignored missing : Nat)
  | noPods (metric space : String)
  | fetchedExternal (metric : String) (series : Nat)
  | countedReady (space selector : String) (total ready : Nat)
  | metricFailed (source metric error : String)
  | allInvalid (workload space error : String)
  | runStarted (target version space : String) (specs : Nat)
  | runPartial (target space : String) (gathered total : Nat)
  | runComplete (target space : String) (gathered total : Nat)
  | runFailed (target space error : String)
  deriving Repr, DecidableEq

namespace Event

/-- How much the event matters: what fails or is left out is a warning, what a run does is
information, and what its parts do is detail. -/
def level : Event → Level
  | .allInvalid .. | .runPartial .. | .runFailed .. => .warn
  | .runStarted .. | .runComplete .. => .info
  | _ => .debug

/-- The part of the program that logs the event. -/
def component : Event → Component
  | .loadedSnapshot .. => .commandLine
  | .groupedPods .. => .resource
  | .noPods .. => .pods
  | .fetchedExternal .. => .external
  | .countedReady .. => .readiness
  | .metricFailed .. | .allInvalid .. => .gather
  | .runStarted .. | .runPartial .. | .runComplete .. | .runFailed .. => .report

/-- What the event says. -/
def message : Event → String
  | .loadedSnapshot .. => "Loaded snapshot"
  | .groupedPods .. => "Grouped pods for resource metric"
  | .noPods .. => "No pods, skipping fetch"
  | .fetchedExternal .. => "Fetched external metric"
  | .countedReady .. => "Counted ready pods"
  | .metricFailed .. => "Failed to gather metric"
  | .allInvalid .. => "All metrics invalid"
  | .runStarted .. => "Gathering metrics"
  | .runPartial .. => "Some metrics could not be gathered"
  | .runComplete .. => "Gathered metrics"
  | .runFailed .. => "Metric gathering failed"

/-- The end of a run that gathered so many metrics of so many. -/
def runEnded (target space : String) (gathered total : Nat) : Event :=
  if gathered < total then .runPartial target space gathered total
  else .runComplete target space gathered total

/-- A text field. -/
def text (name value : String) : String × Json :=
  (name, .string value)

/-- A field that counts. -/
def count (name : String) (value : Nat) : String × Json :=
  (name, .int value)

/-- The fields of an event, apart from its message. -/
def fields : Event → List (String × Json)
  | .loadedSnapshot source pods specs =>
    [text "source" source, count "pods" pods, count "specs" specs]
  | .groupedPods resource space total ready ignored missing =>
    [text "resource" resource, text "namespace" space, count "total" total, count "ready" ready,
      count "ignored" ignored, count "missing" missing]
  | .noPods metric space => [text "metric" metric, text "namespace" space]
  | .fetchedExternal metric series => [text "metric" metric, count "series" series]
  | .countedReady space selector total ready =>
    [text "namespace" space, text "selector" selector, count "total" total, count "ready" ready]
  | .metricFailed source metric error =>
    [text "source" source, text "metric" metric, text "error" error]
  | .allInvalid workload space error =>
    [text "workload" workload, text "namespace" space, text "error" error]
  | .runStarted target version space specs =>
    [text "event" "gather_started", text "scale_target" target, text "version" version,
      text "namespace" space, count "specs" specs]
  | .runPartial target space gathered total =>
    [text "event" "gather_partial", text "scale_target" target, text "namespace" space,
      count "gathered" gathered, count "total" total]
  | .runComplete target space gathered total =>
    [text "event" "gather_complete", text "scale_target" target, text "namespace" space,
      count "gathered" gathered, count "total" total]
  | .runFailed target space error =>
    [text "event" "gather_failed", text "scale_target" target, text "namespace" space,
      text "error" error]

/-- The names of the fields, that of the message first. -/
def fieldNames (event : Event) : List String :=
  "message" :: event.fields.map (·.1)

/-- The record of an event in a log: its level, and its fields behind its message. -/
def toJson (event : Event) : Json :=
  .object
    [("level", .string event.level.name),
      ("fields", .object (text "message" event.message :: event.fields))]

end Event

/-- Questions put to the cluster. -/
inductive Call where
  | selectorFor (workload : String)
  | resourceMetric (name space : String) (pods : Selector)
  | rawMetric (name space : String) (pods series : Selector)
  | objectMetric (name space : String) (object : ObjectReference) (series : Selector)
  | externalMetric (name space : String) (series : Selector)
  | listPods (space : String) (pods : Selector)
  deriving Repr, DecidableEq

/-- Steps of a run. -/
inductive Step where
  | called (call : Call)
  | logged (event : Event)
  /-- A specification of this label has its metric. -/
  | gathered (label : String)
  /-- A specification of this label has none. -/
  | failed (label : String)
  /-- The gauges of missing and ignored pods are set. -/
  | gaps (missing ignored : Nat)
  /-- The time that a run took is observed. -/
  | observed
  deriving Repr, DecidableEq

namespace Step

/-- The event of a step that logs one. -/
def event? : Step → Option Event
  | .logged event => some event
  | _ => none

/-- The question of a step that puts one. -/
def call? : Step → Option Call
  | .called call => some call
  | _ => none

end Step

end ScaleMetrics
