import ScaleMetrics.Binary64.Extended
import ScaleMetrics.Telemetry
import ScaleMetrics.Text.Alphanumeric
import ScaleMetrics.Text.Blank
import ScaleMetrics.Text.Pattern
import ScaleMetrics.Text.Split

/-!
# Telemetry — Filter

Which events are logged.  A filter is a text of directives between commas
(`LogFilter.ofText?`), each a limit of detail for the events that it is for: those of components
whose path starts with its target, and that have the fields it names.  The most specific directive
for an event decides (`LogFilter.deciding?`); what no directive is for is not logged.

A directive can also name a span of work, or the value of a field of one; as no event of this
program stands in a span, such a directive is for none.
-/

namespace ScaleMetrics

/-- A directive as it is written. -/
structure Directive where
  /-- How the path of a component starts; none stands for every component. -/
  target : Option String
  /-- The span of work; none stands for every span, and for events in none. -/
  span : Option String
  /-- The names of fields, each with its value if one is asked for. -/
  fields : List (String × Option String)
  limit : Nat
  deriving Repr, DecidableEq

/-- Directives, in order. -/
structure LogFilter where
  directives : List Directive
  deriving Repr, DecidableEq

namespace Directive

/-- For every component. -/
def everywhere (limit : Nat) : Directive :=
  ⟨none, none, [], limit⟩

/-- The most detailed limit. -/
def mostDetail : Nat :=
  Level.trace.detail

/-- The limit that a word means: the name of a level in letters of either case, or a number. -/
def limit? (word : List Char) : Option Nat :=
  let number := match word with
    | '+' :: digits => Digits.nat? digits
    | digits => Digits.nat? digits
  match number with
  | some n => if n ≤ mostDetail then some n else none
  | none =>
    let name := String.ofList (word.map Char.toLower)
    if name = "off" then some 0
    else ([Level.error, .warn, .info, .debug, .trace].find? fun level =>
      String.ofList (level.name.toList.map Char.toLower) = name).map Level.detail

/-- The limit behind a target; without a word everything is logged. -/
def limitBehind? (word : List Char) : Option Nat :=
  if word.isEmpty then some mostDetail else limit? word

/-- A field that is named, and its value behind `=`; a value is a number or a regular
expression. -/
def field? (text : List Char) : Option (String × Option String) :=
  match Text.split '=' text with
  | name :: value :: _ =>
    if (Binary64.Extended.read? (String.ofList value)).isSome || Text.isPattern value then
      some (String.ofList name, some (String.ofList value))
    else none
  | name :: [] => if text.isEmpty then none else some (String.ofList name, none)
  | [] => none

/-- Where the reading of a directive stands; a part has begun at a byte of the text. -/
inductive Reading where
  | start
  /-- A limit or a target. -/
  | word (first : Nat)
  | span (first : Nat)
  | field (first : Nat)
  /-- The fields have ended. -/
  | fields
  /-- The span has ended. -/
  | target
  | limit (first : Nat)
  deriving Repr, DecidableEq

/-- Characters with the bytes at which they begin. -/
def withOffsets (offset : Nat) : List Char → List (Nat × Char)
  | [] => []
  | c :: rest => (offset, c) :: withOffsets (offset + c.utf8Size) rest

/-- The characters of a text from one byte up to another. -/
def slice (text : List Char) (first last : Nat) : List Char :=
  (withOffsets 0 text).filterMap fun (offset, c) =>
    if first ≤ offset && offset < last then some c else none

/-- The character can begin a target. -/
def beginsWord (c : Char) : Bool :=
  c = '-' || c = ':' || c = '_' || Text.isAlphanumeric c

/-- One more character, at a byte. -/
def step (text : List Char) (state : Directive × Reading) (at_ : Nat × Char) :
    Option (Directive × Reading) :=
  let (directive, reading) := state
  let (offset, c) := at_
  let part (first : Nat) : String := String.ofList (slice text first offset)
  match reading with
  | .start =>
    if c = '[' then some (directive, .span (offset + 1))
    else if beginsWord c then some (directive, .word offset)
    else none
  | .word first =>
    if c = '=' then some ({ directive with target := some (part first) }, .limit (offset + 1))
    else if c = '[' then some ({ directive with target := some (part first) }, .span (offset + 1))
    else some (directive, .word first)
  | .span first =>
    if c = ']' then some ({ directive with span := some (part first) }, .target)
    else if c = '\x7b' then
      let span := if part first = "" then none else some (part first)
      some ({ directive with span := span }, .field (offset + 1))
    else some (directive, .span first)
  | .field first =>
    if c = '\x7d' then
      (field? (slice text first offset)).map fun field =>
        ({ directive with fields := directive.fields ++ [field] }, .fields)
    else some (directive, .field first)
  | .fields => if c = ']' then some (directive, .target) else none
  | .target => if c = '=' then some (directive, .limit (offset + 1)) else none
  | .limit first => some (directive, .limit first)

/-- A directive whose text has ended. -/
def finish? (text : List Char) : Directive × Reading → Option Directive
  | (directive, .word first) =>
    let word := slice text first (String.ofList text).utf8ByteSize
    match limit? word with
    | some limit => some { directive with limit := limit }
    | none => some { directive with target := some (String.ofList word) }
  | (directive, .limit first) =>
    (limitBehind? (slice text first (String.ofList text).utf8ByteSize)).map fun limit =>
      { directive with limit := limit }
  | (directive, .target) => some directive
  | _ => none

/-- The directive that a text is.  The blanks at its ends are not read, but they take part in the
count of bytes: behind blanks, a part begins and ends too early by their number. -/
def ofText? (text : List Char) : Option Directive := do
  let state ← (withOffsets 0 (Text.trim text)).foldlM (step text) (everywhere mostDetail, .start)
  finish? text state

/-- The directive is about spans only. -/
def isSpanOnly (d : Directive) : Bool :=
  d.span.isSome || d.fields.any fun field => field.2.isSome

/-- The directive is for the event. -/
def isFor (event : Event) (d : Directive) : Bool :=
  !d.isSpanOnly &&
    (match d.target with
      | none => true
      | some target => target.toList.isPrefixOf event.component.path.toList) &&
    d.fields.all fun field => event.fieldNames.contains field.1

/-- The length of a target in bytes; no target is shorter than any. -/
def reach (d : Directive) : Nat :=
  match d.target with
  | none => 0
  | some target => target.utf8ByteSize + 1

/-- `d` decides where both are for an event: its target is longer, or it names more fields, or
later ones, or it is the later of two of a kind. -/
def isOver (d other : Directive) : Bool :=
  if d.reach ≠ other.reach then other.reach < d.reach
  else if d.fields.length ≠ other.fields.length then other.fields.length < d.fields.length
  else !(d.fields.map (·.1) < other.fields.map (·.1))

end Directive

namespace LogFilter

/-- Everything up to a level. -/
def upTo (level : Level) : LogFilter :=
  ⟨[.everywhere level.detail]⟩

/-- The filter that a text describes; a text without directives admits errors only. -/
def ofText? (text : String) : Option LogFilter := do
  let directives ← ((Text.split ',' text.toList).filter (!·.isEmpty)).mapM Directive.ofText?
  return if directives.isEmpty then upTo .error else ⟨directives⟩

/-- The better of a directive and the best so far. -/
def prefer (best : Option Directive) (d : Directive) : Option Directive :=
  match best with
  | none => some d
  | some b => if d.isOver b then some d else some b

/-- The directive that decides about an event. -/
def deciding? (filter : LogFilter) (event : Event) : Option Directive :=
  (filter.directives.filter (Directive.isFor event)).foldl prefer none

/-- The event is logged. -/
def admits (filter : LogFilter) (event : Event) : Bool :=
  match filter.deciding? event with
  | some d => event.level.detail ≤ d.limit
  | none => false

end LogFilter

end ScaleMetrics
