import ScaleMetrics.Gather.Builder
import ScaleMetrics.Json.Reader
import ScaleMetrics.Settings.Value

/-!
# Settings

The settings of the program, from a file and from the environment.  A variable whose name starts
with `K8S_GATHER_` sets what the rest of its name says; it wins over the file, and both win over
the defaults.  Names are paths (`Settings.Path`), and their case does not matter.
-/

namespace ScaleMetrics

/-- How log records are written. -/
inductive LogFormat where
  | json
  | text
  deriving Repr, DecidableEq

/-- The format that a name means, in letters of either case. -/
def LogFormat.ofName? (name : String) : Option LogFormat :=
  if Text.lowered name = "json" then some .json
  else if Text.lowered name = "text" then some .text
  else none

/-- The settings of the program. -/
structure Settings where
  /-- The initialization window, in seconds. -/
  initializationSeconds : Nat
  /-- The readiness delay, in seconds. -/
  readinessDelaySeconds : Nat
  logFormat : LogFormat
  /-- The namespace where neither the command line nor the snapshot names one. -/
  defaultSpace : String
  deriving Repr, DecidableEq

namespace Settings

/-- The settings of no file and no environment. -/
def default : Settings :=
  ⟨300, 30, .json, "default"⟩

/-- The configuration of a run. -/
def gatherConfig (settings : Settings) : GatherConfig :=
  ⟨.ofSeconds settings.initializationSeconds, .ofSeconds settings.readinessDelaySeconds⟩

/-- Why there are no settings. -/
inductive Fault where
  /-- The file cannot be read, or holds no table. -/
  | notLoaded
  /-- A value does not suit its setting. -/
  | notParsed
  deriving Repr, DecidableEq

/-- What was not done. -/
def Fault.message : Fault → String
  | .notLoaded => "Failed to load configuration"
  | .notParsed => "Failed to parse configuration"

/-- The settings file, if there is to be one; `unreadable` if it cannot be read. -/
inductive File where
  | none
  | unreadable
  /-- The text of a document. -/
  | content (text : String)
  /-- The values of a file in another format, by names. -/
  | entries (values : List (String × Value))
  deriving Repr, DecidableEq

/-- A format of settings files: the ending of their names, and what a text in it holds. -/
structure Format where
  ending : String
  file : (text : String) → File

namespace Format

/-- Documents. -/
def json : Format :=
  ⟨".json", .content⟩

/-- A path names a file of the format: its last part has the ending, behind a name. -/
def namedBy (format : Format) (path : String) : Bool :=
  let name := path.toList.reverse.takeWhile (· != '/')
  path.endsWith format.ending && format.ending.length < name.length

/-- What the bytes of a file hold. -/
def ofBytes (format : Format) (bytes : ByteArray) : File :=
  match String.fromUTF8? bytes with
  | some text => format.file text
  | none => .unreadable

end Format

/-- The values of some entries, put one after the other. -/
def ofEntries (entries : List (String × Value)) : Dict Value :=
  entries.foldl (fun values (name, value) => Value.put values (Path.ofText name.toList) value)
    Dict.empty

/-- The values of a file, by names. -/
def ofFile : File → Except Fault (Dict Value)
  | .none => .ok Dict.empty
  | .unreadable => .error .notLoaded
  | .content text =>
    match Json.read? text with
    | some (.object members) =>
      if (Json.object members).usable Json.depthLimit then
        .ok <| ofEntries <| (Json.sortMembers members).map fun (name, document) =>
          (name, Value.ofJson document)
      else .error .notLoaded
    | _ => .error .notLoaded
  | .entries values => .ok (ofEntries values)

/-- How the names of variables start, in lower case. -/
def variablePrefix : List Char := "k8s_gather_".toList

/-- The setting that a variable sets. -/
def settingOfVariable? (name : String) : Option Path :=
  let lowered := name.toList.map Text.lower
  if variablePrefix.isPrefixOf lowered then some (Path.ofText (lowered.drop variablePrefix.length))
  else none

/-- The values of the environment over those of a file. -/
def withEnvironment (values : Dict Value) (environment : List (String × String)) : Dict Value :=
  environment.foldl (fun values (name, text) =>
    match settingOfVariable? name with
    | some path => Value.put values path (Value.ofText text)
    | none => values) values

/-- A setting, from its value if it has one. -/
def setting {α : Type} (values : Dict Value) (name : String) (convert : Value → Option α)
    (default : α) : Except Fault α :=
  match values.get? name with
  | none => .ok default
  | some value =>
    match convert value with
    | some a => .ok a
    | none => .error .notParsed

/-- The settings that some values make. -/
def ofValues (values : Dict Value) : Except Fault Settings := do
  let initialization ←
    setting values "cpu_initialization_period_secs" Value.toWord? default.initializationSeconds
  let readinessDelay ←
    setting values "initial_readiness_delay_secs" Value.toWord? default.readinessDelaySeconds
  let logFormat ←
    setting values "log_format" (fun v => v.toName?.bind LogFormat.ofName?) default.logFormat
  let defaultSpace ← setting values "default_namespace" Value.toText? default.defaultSpace
  return ⟨initialization, readinessDelay, logFormat, defaultSpace⟩

/-- The settings of a file and an environment. -/
def load (file : File) (environment : List (String × String)) : Except Fault Settings := do
  let values ← ofFile file
  ofValues (withEnvironment values environment)

end Settings

end ScaleMetrics
