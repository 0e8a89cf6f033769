import ScaleMetrics.Text.Pattern.Class
import ScaleMetrics.Text.Pattern.Opening

/-!
# Text — Pattern

Whether a text is a regular expression that a finite automaton can decide (`isPattern`).  Groups and
classes are closed, names of groups differ, a repetition has something to repeat, an escape means
something under the flags in force, and constructs do not nest too deep.  Looking around and going
back are beyond such an automaton.  A text without a closing brace, which is all that this library
has to judge, cannot hold a counted repetition or a braced escape; an opening brace has no meaning
in it but as a character of a class.
-/

namespace ScaleMetrics.Text.Pattern

/-- The deepest nesting of a pattern. -/
def maxDepth : Nat := 250

/-- A group that is open, or the whole pattern. -/
structure Level where
  flags : Flags
  /-- The alternatives in front of the last one. -/
  branches : Row
  /-- The pieces of the last alternative. -/
  pieces : Row
  deriving Repr, DecidableEq

/-- A level in which nothing stands. -/
def Level.start (flags : Flags) : Level :=
  ⟨flags, .empty, .empty⟩

/-- The depth of what stands in the level. -/
def Level.depth (level : Level) : Nat :=
  (level.branches.push level.pieces.depth).depth

/-- Where the reading of a pattern stands. -/
structure State where
  /-- The innermost level. -/
  level : Level
  /-- The levels around it, the innermost first. -/
  outer : List Level
  /-- The depth of the piece in front, if it can be repeated. -/
  last : Option Nat
  /-- The names of groups. -/
  names : List (List Char)
  /-- The classes that are open, the innermost first. -/
  classes : List Class
  deriving Repr, DecidableEq

/-- Nothing has been read. -/
def State.start : State :=
  ⟨.start .initial, [], none, [], []⟩

/-- One more piece, which can be repeated. -/
def State.push (state : State) (depth : Nat) : State :=
  let level := { state.level with pieces := state.level.pieces.push depth }
  { state with level := level, last := some depth }

/-- The piece in front is repeated. -/
def State.repeat? (state : State) : Option State :=
  state.last.map fun depth =>
    let level := { state.level with pieces := state.level.pieces.deepen (depth + 1) }
    { state with level := level, last := some (depth + 1) }

/-- Another alternative begins. -/
def State.branch (state : State) : State :=
  let branches := state.level.branches.push state.level.pieces.depth
  { state with level := ⟨state.level.flags, branches, .empty⟩, last := none }

/-- A group begins. -/
def State.enter (state : State) (flags : Flags) : State :=
  { state with level := .start flags, outer := state.level :: state.outer, last := none }

/-- A group ends; the flags are again what they were in front of it. -/
def State.leave? (state : State) : Option State :=
  match state.outer with
  | [] => none
  | level :: outer =>
    some ({ state with level := level, outer := outer }.push (state.level.depth + 1))

/-- Flags stand in the way of a repetition, and count as a piece. -/
def State.setFlags (state : State) (letters : List Char) : State :=
  let flags := state.level.flags.set letters
  let level := { state.level with flags := flags, pieces := state.level.pieces.push 0 }
  { state with level := level, last := none }

/-- What a parenthesis begins.  No two groups share a name. -/
def State.opening? (state : State) : Opening → Option State
  | .group => some (state.enter state.level.flags)
  | .named name =>
    if state.names.contains name then none
    else some { state.enter state.level.flags with names := name :: state.names }
  | .flagged letters => some (state.enter (state.level.flags.set letters))
  | .flags letters => some (state.setFlags letters)

/-- One construct of the innermost class. -/
def State.classStep (state : State) (cls : Class) (outer : List Class) : Class.Step → State
  | .next cls => { state with classes := cls :: outer }
  | .nested cls => { state with classes := .start :: cls :: outer }
  | .closed =>
    match outer with
    | [] => { state with classes := [] }.push (cls.depth + 1)
    | around :: outer => { state with classes := around.push (cls.depth + 1) :: outer }

/-- One construct of a pattern outside classes: the state behind it, and the rest. -/
def State.pieceStep? (state : State) (c : Char) (rest : List Char) :
    Option (State × List Char) :=
  let flags := state.level.flags
  if c = '(' then
    (Opening.read? (flags.skip rest)).bind fun (opening, rest) =>
      (state.opening? opening).map fun state => (state, rest)
  else if c = ')' then state.leave?.map fun state => (state, rest)
  else if c = '|' then some (state.branch, rest)
  else if c = '[' then some ({ state with classes := [.start] }, rest)
  else if c = '*' || c = '+' || c = '?' then
    -- a repetition that prefers to be short
    let rest := if rest.head? = some '?' then rest.drop 1 else rest
    state.repeat?.map fun state => (state, rest)
  else if c = '\x7b' then none
  else if c = '.' then if flags.unicode then some (state.push 0, rest) else none
  else if c = '^' || c = '$' then some (state.push 0, rest)
  else (Atom.read? flags (c :: rest)).bind fun (atom, rest) =>
    if atom.isPiece flags then some (state.push 0, rest) else none

/-- One construct of a pattern: the state behind it, and the rest. -/
def State.step? (state : State) (c : Char) (rest : List Char) : Option (State × List Char) :=
  match state.classes with
  | [] => state.pieceStep? c rest
  | cls :: outer => (cls.step? state.level.flags c rest).map fun (step, rest) =>
      (state.classStep cls outer step, rest)

/-- The state behind a text; every construct takes at least one character, so that `steps`, the
number of characters, is enough. -/
def scan? : Nat → State → List Char → Option State
  | 0, state, text => if (state.level.flags.skip text).isEmpty then some state else none
  | steps + 1, state, text =>
    match state.level.flags.skip text with
    | [] => some state
    | c :: rest => (state.step? c rest).bind fun (state, rest) => scan? steps state rest

/-- Nothing is open, and nothing stands too deep. -/
def State.isComplete (state : State) : Bool :=
  state.outer.isEmpty && state.classes.isEmpty && state.level.depth ≤ maxDepth

end Pattern

/-- The text is a regular expression. -/
def isPattern (text : List Char) : Bool :=
  (Pattern.scan? text.length .start text).any Pattern.State.isComplete

end ScaleMetrics.Text
