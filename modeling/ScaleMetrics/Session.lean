import ScaleMetrics.CommandLine
import ScaleMetrics.Settings
import ScaleMetrics.Snapshot.Codec
import ScaleMetrics.Snapshot.Recorded
import ScaleMetrics.Telemetry.Filter

/-!
# Session

A session of the program, as a function of what it is given: arguments, environment, files,
standard input and the time.  Settings are loaded first, then the snapshot; then the metrics of
the recorded scale target are gathered and reported.
-/

namespace ScaleMetrics

/-- The name and version of the program. -/
def programName : String := "k8s-gather"

/-- The version of the program. -/
def programVersion : String := "0.1.0"

/-- What a session is given. -/
structure World where
  environment : List (String × String)
  /-- The bytes of a file, or why there are none. -/
  file : (path : String) → Except String ByteArray
  input : ByteArray
  now : Instant

/-- What comes of a run over a snapshot. -/
structure RunReport where
  output : String
  events : List Event
  failure : Option String
  deriving Repr, DecidableEq

/-- How a session ends. -/
structure SessionEnd where
  exitCode : Nat
  output : String
  /-- Why it failed, if it did and was used well. -/
  failure : Option String
  /-- The events that are logged. -/
  logged : List Event
  logFormat : LogFormat
  deriving Repr, DecidableEq

namespace Session

/-- The namespace of a run: the one asked for, or that of the snapshot, or that of the settings. -/
def spaceOf (asked : Option String) (snapshot : Snapshot) (settings : Settings) : String :=
  (asked.or snapshot.space).getD settings.defaultSpace

/-- The run over a snapshot, at the time it is loaded. -/
def gatherOf (snapshot : Snapshot) (settings : Settings) (now : Instant) : Gather where
  cluster := snapshot.cluster now now
  resolver := Workload.selector
  windows := settings.gatherConfig.windows

/-- Gathers the metrics of a snapshot and reports them. -/
def gatherSnapshot (snapshot : Snapshot) (asked : Option String) (settings : Settings)
    (format : Report.Format) (colours : Bool) (now : Instant) : RunReport :=
  let space := spaceOf asked snapshot settings
  let target := snapshot.workload.describe
  let total := snapshot.specs.length
  let trail :=
    (gatherOf snapshot settings now).run snapshot.workload snapshot.specs space snapshot.replicas
  let events := .runStarted target programVersion space total :: trail.steps.filterMap Step.event?
  match trail.outcome with
  | .error e => ⟨"", events ++ [.runFailed target space e.message], some e.message⟩
  | .ok metrics =>
    ⟨Report.render format colours metrics total target space,
      events ++ [.runEnded target space metrics.length total], none⟩

/-- The value of a variable; of several the last counts. -/
def valueOf? (environment : List (String × String)) (name : String) : Option String :=
  environment.reverse.lookup name

/-- Colours are on when they are asked for, whatever the output is. -/
def colours (environment : List (String × String)) : Bool :=
  match valueOf? environment "CLICOLOR_FORCE" with
  | some value => value ≠ "0"
  | none => false

/-- The log filter of the environment, or else that of the command line. -/
def logFilter (environment : List (String × String)) (verbose : Bool) : LogFilter :=
  ((valueOf? environment "RUST_LOG").bind LogFilter.ofText?).getD <|
    .upTo (if verbose then .debug else .info)

/-- The settings file that a path names.  The ending of its name tells the format; it may be left
out, and then the first file with an ending is taken. -/
def settingsFile (world : World) (formats : List Settings.Format) :
    Option String → Settings.File
  | none => .none
  | some path =>
    let formats := Settings.Format.json :: formats
    match world.file path with
    | .ok bytes =>
      match formats.find? (·.namedBy path) with
      | some format => format.ofBytes bytes
      | none => .unreadable
    | .error _ =>
      let found := formats.findSome? fun format =>
        (world.file (path ++ format.ending)).toOption.map format.ofBytes
      found.getD .unreadable

/-- The snapshot that a path names. -/
def readSnapshot (world : World) (path : String) : Except Snapshot.ReadFault Snapshot :=
  if path = "-" then Snapshot.ofBytes world.input
  else
    match world.file path with
    | .error cause => .error (.unreadable path cause)
    | .ok bytes =>
      match String.fromUTF8? bytes with
      | some text => Snapshot.ofText text
      | none => .error (.unreadable path "stream did not contain valid UTF-8")

/-- The failure of reading a snapshot, with its cause if it has one. -/
def readFailure : Snapshot.ReadFault → String
  | fault@(.unreadable _ cause) => fault.message ++ ": " ++ cause
  | fault => fault.message

/-- A session that failed. -/
def failed (message : String) (logFormat : LogFormat) : SessionEnd :=
  ⟨1, "", some message, [], logFormat⟩

/-- A session with loaded settings. -/
def runWith (world : World) (options : Options) (settings : Settings) : SessionEnd :=
  match readSnapshot world options.snapshot with
  | .error fault => failed (readFailure fault) settings.logFormat
  | .ok snapshot =>
    let report := gatherSnapshot snapshot options.space settings options.format
      (colours world.environment) world.now
    let loaded :=
      Event.loadedSnapshot options.snapshot snapshot.pods.length snapshot.specs.length
    let logged :=
      (loaded :: report.events).filter (logFilter world.environment options.verbose).admits
    ⟨if report.failure.isSome then 1 else 0, report.output, report.failure, logged,
      settings.logFormat⟩

/-- A session.  Settings files can be in other formats besides JSON, whose readers are given. -/
def run (world : World) (arguments : List String) (formats : List Settings.Format := []) :
    SessionEnd :=
  match CommandLine.read arguments with
  | .misuse => ⟨2, "", none, [], .json⟩
  | .version => ⟨0, programName ++ " " ++ programVersion ++ "\n", none, [], .json⟩
  | .run options =>
    match Settings.load (settingsFile world formats options.config) world.environment with
    | .error fault => failed fault.message .json
    | .ok settings => runWith world options settings

end Session

end ScaleMetrics
