import ScaleMetrics.Binary64
import ScaleMetrics.Binary64.Decimal
import ScaleMetrics.Binary64.Extended
import ScaleMetrics.Bounded
import ScaleMetrics.Calendar
import ScaleMetrics.Cluster
import ScaleMetrics.CommandLine
import ScaleMetrics.Dict
import ScaleMetrics.Gather
import ScaleMetrics.Gather.Builder
import ScaleMetrics.Gather.Source
import ScaleMetrics.GatherError
import ScaleMetrics.Instant
import ScaleMetrics.Instant.Printer
import ScaleMetrics.Instant.Reader
import ScaleMetrics.Json
import ScaleMetrics.Json.Decoder
import ScaleMetrics.Json.Decoder.Lemmas
import ScaleMetrics.Json.Printer
import ScaleMetrics.Json.Reader
import ScaleMetrics.Main
import ScaleMetrics.Metadata
import ScaleMetrics.Metric
import ScaleMetrics.Metric.Codec
import ScaleMetrics.MetricSpec
import ScaleMetrics.MetricSpec.Codec
import ScaleMetrics.MetricSpec.Source
import ScaleMetrics.Pod
import ScaleMetrics.Pod.Class
import ScaleMetrics.Pod.Facts
import ScaleMetrics.Pod.Group
import ScaleMetrics.Pod.Requests
import ScaleMetrics.Proofs.PartialFailure
import ScaleMetrics.Quantity
import ScaleMetrics.Report
import ScaleMetrics.Report.Amount
import ScaleMetrics.Report.Row
import ScaleMetrics.Report.Style
import ScaleMetrics.Report.Table
import ScaleMetrics.Sample
import ScaleMetrics.Schema
import ScaleMetrics.Schema.Container
import ScaleMetrics.Schema.Controller
import ScaleMetrics.Schema.Placement
import ScaleMetrics.Schema.Pod
import ScaleMetrics.Schema.Reference
import ScaleMetrics.Schema.Volume
import ScaleMetrics.Selector
import ScaleMetrics.Selector.Written
import ScaleMetrics.Session
import ScaleMetrics.Settings
import ScaleMetrics.Settings.Path
import ScaleMetrics.Settings.Value
import ScaleMetrics.Snapshot
import ScaleMetrics.Snapshot.Codec
import ScaleMetrics.Snapshot.Recorded
import ScaleMetrics.Telemetry
import ScaleMetrics.Telemetry.Counters
import ScaleMetrics.Telemetry.Filter
import ScaleMetrics.Telemetry.LogLine
import ScaleMetrics.Telemetry.Trail
import ScaleMetrics.Text.Alphabetic
import ScaleMetrics.Text.Alphanumeric
import ScaleMetrics.Text.Blank
import ScaleMetrics.Text.Case
import ScaleMetrics.Text.Digits
import ScaleMetrics.Text.Emoji
import ScaleMetrics.Text.Ligature
import ScaleMetrics.Text.Numeric
import ScaleMetrics.Text.Pattern
import ScaleMetrics.Text.Pattern.Atom
import ScaleMetrics.Text.Pattern.Class
import ScaleMetrics.Text.Pattern.Flags
import ScaleMetrics.Text.Pattern.Nesting
import ScaleMetrics.Text.Pattern.Opening
import ScaleMetrics.Text.Printable
import ScaleMetrics.Text.Quoted
import ScaleMetrics.Text.Ranges
import ScaleMetrics.Text.Split
import ScaleMetrics.Text.Wide
import ScaleMetrics.Text.Width
import ScaleMetrics.Text.ZeroWidth
import ScaleMetrics.Workload
import ScaleMetrics.Workload.Codec
import ScaleMetrics.Proofs.Outcome
import ScaleMetrics.Proofs.Population
import ScaleMetrics.Proofs.RunningSums
import ScaleMetrics.Proofs.Requests
import ScaleMetrics.Proofs.Recorded
import ScaleMetrics.Proofs.Isolation
import ScaleMetrics.Proofs.Document
import ScaleMetrics.Proofs.Resolution
import ScaleMetrics.Proofs.Counting
import ScaleMetrics.Proofs.Gauges
import ScaleMetrics.Proofs.Questions
import ScaleMetrics.Proofs.Targets
import ScaleMetrics.Proofs.Reordering
import ScaleMetrics.Proofs.Totals
import ScaleMetrics.Proofs.Reported
import ScaleMetrics.Proofs.Dates
import ScaleMetrics.Proofs.Timestamps
import ScaleMetrics.Proofs.Written
import ScaleMetrics.Proofs.Canonical
import ScaleMetrics.Proofs.Usable
import ScaleMetrics.Proofs.Stability
import ScaleMetrics.Proofs.WrittenSpecs
import ScaleMetrics.Proofs.WrittenMetric
import ScaleMetrics.Proofs.KeptParts
import ScaleMetrics.Proofs.KeptDepth
import ScaleMetrics.Proofs.SavedPods
import ScaleMetrics.Proofs.SavedWorkload
import ScaleMetrics.Proofs.SavedSnapshot
import ScaleMetrics.Proofs.Leaves
import ScaleMetrics.Proofs.Printed
import ScaleMetrics.Proofs.ReadLeaves
import ScaleMetrics.Proofs.KeptLeaves
import ScaleMetrics.Proofs.SavedText
import ScaleMetrics.Proofs.Accounting
import ScaleMetrics.Proofs.ExternalTotal
import ScaleMetrics.Proofs.Spelling
import ScaleMetrics.Proofs.Scaling
import ScaleMetrics.Proofs.Words
import ScaleMetrics.Proofs.RangeError
import ScaleMetrics.Proofs.Grace
import ScaleMetrics.Proofs.Joined
import ScaleMetrics.Proofs.Leniency
import ScaleMetrics.Proofs.NoGrace
import ScaleMetrics.Proofs.RequestScan
import ScaleMetrics.Proofs.Selection
import ScaleMetrics.Proofs.StatedSelector
import ScaleMetrics.Proofs.Blocks
import ScaleMetrics.Proofs.Serving
import ScaleMetrics.Proofs.Averages
import ScaleMetrics.Proofs.Numerals
import ScaleMetrics.Proofs.Rounding
import ScaleMetrics.Proofs.Amounts
import ScaleMetrics.Proofs.Rereading
import ScaleMetrics.Proofs.DefaultNamespace
