import ScaleMetrics.Session
import ScaleMetrics.Telemetry.LogLine
import Std.Time.DateTime.Timestamp

/-!
# Main

The command line of the program: gathers what a session is given, and writes what comes of it.
-/

namespace ScaleMetrics.Main

/-- A variable of the environment, written as its name and value around `=`. -/
def readVariable (entry : List Char) : String × String :=
  (String.ofList (entry.takeWhile (· != '=')), String.ofList ((entry.dropWhile (· != '=')).drop 1))

/-- The environment, in the order of its names; without a list of it, nothing. -/
def readEnvironment : IO (List (String × String)) := do
  try
    let bytes ← IO.FS.readBinFile "/proc/self/environ"
    let entries := Text.split '\x00' ((String.fromUTF8? bytes).getD "").toList
    return (Dict.ofList (entries.map readVariable)).toList
  catch _ =>
    return []

/-- Why a file cannot be read. -/
def causeOf : IO.Error → String
  | .noFileOrDirectory .. => "No such file or directory (os error 2)"
  | .permissionDenied .. => "Permission denied (os error 13)"
  | .inappropriateType _ 20 _ => "Not a directory (os error 20)"
  | .inappropriateType .. => "Is a directory (os error 21)"
  | e => toString e

/-- The bytes of a file, or why there are none. -/
def readFile (path : String) : IO (Except String ByteArray) := do
  try
    return .ok (← IO.FS.readBinFile path)
  catch e =>
    return .error (causeOf e)

/-- The time. -/
def readClock : IO Instant := do
  let nanos := (← Std.Time.Timestamp.now).toNanosecondsSinceUnixEpoch.val
  return (Instant.of? (nanos / nanosPerSecond) (nanos % nanosPerSecond).toNat).getD Instant.epoch

/-- The files that the arguments name. -/
def namedFiles (arguments : List String) : IO (List (String × Except String ByteArray)) := do
  match CommandLine.read arguments with
  | .run options =>
    let settings := options.config.toList.flatMap fun path =>
      [path, path ++ Settings.Format.json.ending]
    (settings ++ [options.snapshot]).mapM fun path => do return (path, ← readFile path)
  | _ => return []

/-- The standard input, if the arguments ask for it. -/
def readInput (arguments : List String) : IO ByteArray := do
  match CommandLine.read arguments with
  | .run options =>
    if options.snapshot = "-" then (← IO.getStdin).readBinToEnd else return ByteArray.empty
  | _ => return ByteArray.empty

/-- Runs a session: what is logged and what failed goes to the standard error, the report to the
standard output. -/
def runSession (arguments : List String) : IO UInt32 := do
  let files ← namedFiles arguments
  let world : World := {
    environment := ← readEnvironment
    file := fun path => (files.lookup path).getD (.error "No such file or directory (os error 2)")
    input := ← readInput arguments
    now := ← readClock }
  let ending := Session.run world arguments
  let errors ← IO.getStderr
  for event in ending.logged do
    errors.putStrLn (event.logLine ending.logFormat world.now)
  IO.print ending.output
  if let some message := ending.failure then
    errors.putStr (Report.failure (Session.colours world.environment) message)
  return ending.exitCode.toUInt32

end ScaleMetrics.Main

/-- The entry of the program. -/
def main (arguments : List String) : IO UInt32 :=
  ScaleMetrics.Main.runSession arguments
