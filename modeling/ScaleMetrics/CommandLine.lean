import ScaleMetrics.Report

/-!
# CommandLine

The arguments of the program.  Each option is given once, by a long name or a letter; its value
follows as the next argument, behind `=`, or right behind the letter.  A value that is an argument
of its own does not start with `-`, unless it is `-` alone.  Arguments are read one by one, and the
first that asks for the version, or is wrong, settles what happens.
-/

namespace ScaleMetrics

/-- What the program is asked to do. -/
structure Options where
  /-- The snapshot file; `-` is the standard input. -/
  snapshot : String
  space : Option String
  format : Report.Format
  config : Option String
  verbose : Bool
  deriving Repr, DecidableEq

namespace CommandLine

/-- The options that have a value. -/
inductive Parameter where
  | snapshot
  | space
  | format
  | config
  deriving Repr, DecidableEq

/-- The option of a long name. -/
def Parameter.ofName? (name : String) : Option Parameter :=
  if name = "snapshot" then some .snapshot
  else if name = "namespace" then some .space
  else if name = "format" then some .format
  else if name = "config" then some .config
  else none

/-- The option of a letter. -/
def Parameter.ofLetter? (letter : Char) : Option Parameter :=
  if letter = 's' then some .snapshot
  else if letter = 'n' then some .space
  else if letter = 'f' then some .format
  else if letter = 'c' then some .config
  else none

/-- The options given so far. -/
structure Given where
  snapshot : Option String
  space : Option String
  format : Option Report.Format
  config : Option String
  verbose : Bool
  deriving Repr, DecidableEq

/-- No option is given. -/
def Given.nothing : Given :=
  ⟨none, none, none, none, false⟩

/-- One more option with a value, if it is new and the value suits it. -/
def Given.set? (given : Given) (value : String) : Parameter → Option Given
  | .snapshot => if given.snapshot.isSome then none else some { given with snapshot := some value }
  | .space => if given.space.isSome then none else some { given with space := some value }
  | .format =>
    if given.format.isSome then none
    else (Report.Format.ofName? value).map fun format => { given with format := some format }
  | .config =>
    if given.config.isSome || value = "" then none else some { given with config := some value }

/-- What the arguments ask for. -/
inductive Request where
  | run (options : Options)
  | version
  /-- The arguments are wrong. -/
  | misuse
  deriving Repr, DecidableEq

/-- Where the reading of arguments stands. -/
inductive Reading where
  | ready (given : Given)
  /-- The next argument is the value of this option. -/
  | awaiting (parameter : Parameter) (given : Given)
  /-- Options have ended; no argument may follow. -/
  | ended (given : Given)
  | version
  | misuse
  deriving Repr, DecidableEq

/-- An option with its value. -/
def Reading.set (given : Given) (parameter : Parameter) (value : String) : Reading :=
  match given.set? value parameter with
  | some given => .ready given
  | none => .misuse

/-- The switch for verbose output. -/
def Reading.setVerbose (given : Given) : Reading :=
  if given.verbose then .misuse else .ready { given with verbose := true }

/-- Letters behind one `-`. -/
def readLetters (given : Given) : List Char → Reading
  | [] => .ready given
  | letter :: rest =>
    if letter = 'v' then
      if given.verbose then .misuse else readLetters { given with verbose := true } rest
    else if letter = 'V' then .version
    else
      match Parameter.ofLetter? letter, rest with
      | none, _ => .misuse
      | some parameter, [] => .awaiting parameter given
      | some parameter, '=' :: value => .set given parameter (String.ofList value)
      | some parameter, value => .set given parameter (String.ofList value)

/-- A name behind `--`, with or without a value behind `=`. -/
def readName (given : Given) (text : List Char) : Reading :=
  let name := String.ofList (text.takeWhile (· != '='))
  match text.dropWhile (· != '=') with
  | [] =>
    if name = "verbose" then .setVerbose given
    else if name = "version" then .version
    else
      match Parameter.ofName? name with
      | some parameter => .awaiting parameter given
      | none => .misuse
  | _ :: value =>
    match Parameter.ofName? name with
    | some parameter => .set given parameter (String.ofList value)
    | none => .misuse

/-- An argument where an option may stand. -/
def readArgument (given : Given) : List Char → Reading
  | ['-', '-'] => .ended given
  | '-' :: '-' :: text => readName given text
  | '-' :: letter :: rest => readLetters given (letter :: rest)
  | _ => .misuse

/-- The argument can be a value. -/
def isValue : List Char → Bool
  | ['-'] => true
  | '-' :: _ => false
  | _ => true

/-- One more argument. -/
def step (reading : Reading) (argument : String) : Reading :=
  match reading with
  | .ready given => readArgument given argument.toList
  | .awaiting parameter given =>
    if isValue argument.toList then .set given parameter argument else .misuse
  | .ended _ => .misuse
  | .version => .version
  | .misuse => .misuse

/-- What the options ask for; a snapshot must be given. -/
def Given.request (given : Given) : Request :=
  match given.snapshot with
  | some snapshot =>
    .run ⟨snapshot, given.space, given.format.getD .table, given.config, given.verbose⟩
  | none => .misuse

/-- What the reading comes to when the arguments end. -/
def Reading.request : Reading → Request
  | .ready given => given.request
  | .ended given => given.request
  | .awaiting .. => .misuse
  | .version => .version
  | .misuse => .misuse

/-- What the arguments ask for. -/
def read (arguments : List String) : Request :=
  (arguments.foldl step (.ready .nothing)).request

end CommandLine

end ScaleMetrics
