import ScaleMetrics.Metric
import ScaleMetrics.Report.Amount
import ScaleMetrics.Report.Style
import ScaleMetrics.Report.Table

/-!
# Report — Row

A gathered metric as a row of a table.  What pods report is shown as the mean of the samples that
count, in exact arithmetic and rounded toward zero.
-/

namespace ScaleMetrics.Report

/-- The mean of some amounts, rounded toward zero; nothing has no mean. -/
def mean? (amounts : List Milli) : Option Int :=
  match amounts with
  | [] => none
  | _ => some ((Milli.exactSum amounts).tdiv amounts.length)

/-- What stands for no value. -/
def noValue : String := "-"

/-- The text of a mean. -/
def averageText (average : Int) : String :=
  "avg " ++ amount average

/-- The mean of a series. -/
def seriesText (series : Series) : String :=
  match mean? (series.values.map (·.value)) with
  | some mean => averageText mean
  | none => noValue

/-- A current value. -/
def currentText (current : CurrentValue) : String :=
  match current.value, current.averageValue with
  | some value, _ => amount value.val
  | none, some average => averageText average.val
  | none, none => noValue

/-- A row of the table of metrics. -/
structure Row where
  source : String
  metric : String
  target : String
  current : String
  ready : String
  missing : String
  ignored : String
  replicas : String
  deriving Repr, DecidableEq

namespace Row

/-- The names of the columns. -/
def header : List String :=
  ["Source", "Metric", "Target", "Current", "Ready", "Missing", "Ignored", "Replicas"]

/-- The cells of a row, in the order of the columns. -/
def cells (row : Row) : List String :=
  [row.source, row.metric, row.target, row.current, row.ready, row.missing, row.ignored,
    row.replicas]

/-- The current value, and the pods that are missing and ignored. -/
def measured (colours : Bool) : Payload → String × String × String
  | .resource metric =>
    (seriesText metric.samples, gap colours metric.missing.size, gap colours metric.ignored.size)
  | .pods metric => (seriesText metric.samples, gap colours metric.missing.size, noValue)
  | .object metric => (currentText metric.current, noValue, noValue)
  | .external metric => (currentText metric.current, noValue, noValue)

/-- The row of a metric. -/
def ofMetric (colours : Bool) (metric : Metric) : Row :=
  let (current, missing, ignored) := measured colours metric.payload
  { source := metric.spec.label
    metric := metric.spec.metricName?.getD noValue
    target := metric.spec.targetKind?.getD noValue
    current := current
    ready := match metric.payload.readyPodCount? with
      | some count => toString count
      | none => noValue
    missing := missing
    ignored := ignored
    replicas := toString metric.currentReplicas.val }

end Row

/-- The table of metrics. -/
def metricsTable (colours : Bool) (metrics : List Metric) : String :=
  table Row.header (metrics.map fun metric => (Row.ofMetric colours metric).cells)

end ScaleMetrics.Report
