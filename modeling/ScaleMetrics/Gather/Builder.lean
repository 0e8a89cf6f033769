import ScaleMetrics.Gather

/-!
# Gather — Builder

Sets a run up from its parts.  The metrics client and the pod lister must be given; the resolver
and the windows have defaults.
-/

namespace ScaleMetrics

/-- How long pods are given, as it is configured. -/
structure GatherConfig where
  initialization : Duration
  readinessDelay : Duration
  deriving Repr, DecidableEq

namespace GatherConfig

/-- Five minutes and thirty seconds. -/
def default : GatherConfig :=
  ⟨.ofSeconds 300, .ofSeconds 30⟩

/-- The windows that the lengths of time make. -/
def windows (config : GatherConfig) : GraceWindows :=
  .ofDurations config.initialization config.readinessDelay

end GatherConfig

namespace Gather

/-- The parts of a run. -/
structure Builder where
  client : Option MetricsClient
  lister : Option PodLister
  resolver : Option Resolver
  config : GatherConfig

/-- What is missing. -/
inductive BuildFault where
  | noClient
  | noLister
  deriving Repr, DecidableEq

/-- What is said about a missing part. -/
def BuildFault.message : BuildFault → String
  | .noClient => "Metrics client is required"
  | .noLister => "Pod lister is required"

namespace Builder

/-- No parts but the defaults. -/
def empty : Builder :=
  ⟨none, none, none, .default⟩

/-- The run that the parts make, at a point in time. -/
def build (builder : Builder) (now : Instant) : Except BuildFault Gather :=
  match builder.client, builder.lister with
  | none, _ => .error .noClient
  | some _, none => .error .noLister
  | some client, some lister =>
    .ok ⟨⟨client, lister, now⟩, builder.resolver.getD Workload.selector, builder.config.windows⟩

end Builder

end Gather

end ScaleMetrics
