import ScaleMetrics.Json.Printer
import ScaleMetrics.Metric.Codec
import ScaleMetrics.Report.Row

/-!
# Report

What a run prints: a table of the metrics with a summary below it, or the metrics as JSON.
-/

namespace ScaleMetrics.Report

/-- The form of a report. -/
inductive Format where
  | table
  | json
  deriving Repr, DecidableEq

/-- The form of a name, in lower case. -/
def Format.ofName? (name : String) : Option Format :=
  if name = "table" then some .table
  else if name = "json" then some .json
  else none

/-- The metrics, as they are printed. -/
def metricsText (format : Format) (colours : Bool) (metrics : List Metric) : String :=
  match format with
  | .json => (Json.ofList Metric.toJson metrics).pretty
  | .table =>
    if metrics.isEmpty then Style.yellow.paint colours "No metrics gathered"
    else metricsTable colours metrics

/-- The sign in front of a summary. -/
def summarySign (colours complete : Bool) : String :=
  if complete then Style.boldGreen.paint colours "✓" else Style.boldYellow.paint colours "⚠"

/-- How many metrics were gathered, for what and where. -/
def summary (colours : Bool) (gathered total : Nat) (workload space : String) : String :=
  summarySign colours (total ≤ gathered) ++ " Gathered " ++ toString gathered ++ " of " ++
    toString total ++ " metrics for " ++ workload ++ " in " ++ space

/-- A line. -/
def line (text : String) : String :=
  text ++ "\n"

/-- All that a run prints about its metrics. -/
def render (format : Format) (colours : Bool) (metrics : List Metric) (total : Nat)
    (workload space : String) : String :=
  line (metricsText format colours metrics) ++
    match format with
    | .table => line (summary colours metrics.length total workload space)
    | .json => ""

/-- The line that tells of a failure. -/
def failure (colours : Bool) (message : String) : String :=
  line (Style.boldRed.paint colours "✗" ++ " " ++ message)

end ScaleMetrics.Report
