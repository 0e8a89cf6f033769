import ScaleMetrics.Text.Pattern.Atom
import ScaleMetrics.Text.Pattern.Nesting

/-!
# Text — Pattern — Class

The classes of a pattern, in brackets: characters, ranges, the named classes of ASCII, and classes
again, combined by the operators `&&`, `--` and `~~`, of which none binds tighter than another.
Hyphens in front of all else stand for themselves, and so does a closing bracket that stands first.
`Class.step?` takes one construct.
-/

namespace ScaleMetrics.Text.Pattern

/-- How far the reading of a class has come. -/
inductive Class.Stage where
  /-- Nothing of it has been read. -/
  | opened
  /-- A caret or hyphens have been read. -/
  | led
  /-- Its items are being read. -/
  | inside
  deriving Repr, DecidableEq

/-- A class that is open. -/
structure Class where
  stage : Class.Stage
  /-- The depth of what stands left of the last operator. -/
  left : Option Nat
  /-- The items behind the last operator. -/
  items : Row
  deriving Repr, DecidableEq

/-- A class of which only the bracket has been read. -/
def Class.start : Class :=
  ⟨.opened, none, .empty⟩

/-- The depth of what stands in the class. -/
def Class.depth (cls : Class) : Nat :=
  match cls.left with
  | some left => max left cls.items.depth + 1
  | none => cls.items.depth

/-- One more item. -/
def Class.push (cls : Class) (depth : Nat) : Class :=
  ⟨.inside, cls.left, cls.items.push depth⟩

/-- An operator behind the items. -/
def Class.operator (cls : Class) : Class :=
  ⟨.inside, some cls.depth, .empty⟩

/-- The names of the classes of ASCII. -/
def asciiClasses : List String :=
  ["alnum", "alpha", "ascii", "blank", "cntrl", "digit", "graph", "lower", "print", "punct",
    "space", "upper", "word", "xdigit"]

/-- Whether a named class `[:name:]` is negated, and what is left behind it; its first bracket is
not in the text. -/
def readNamed? : List Char → Option (Bool × List Char)
  | ':' :: '^' :: rest => (behindName? rest).map fun rest => (true, rest)
  | ':' :: rest => (behindName? rest).map fun rest => (false, rest)
  | _ => none
where
  /-- What is left behind the name of a class. -/
  behindName? (text : List Char) : Option (List Char) :=
    match text.dropWhile (· != ':') with
    | ':' :: ']' :: rest =>
      if asciiClasses.contains (String.ofList (text.takeWhile (· != ':'))) then some rest else none
    | _ => none

/-- A named class can stand in a class. -/
def namedIsItem (flags : Flags) (negated : Bool) : Bool :=
  if flags.unicode then !flags.ignoreCase else !negated

/-- What is left behind a character, a shorthand or a range. -/
def behindItem? (flags : Flags) (text : List Char) : Option (List Char) :=
  (Atom.read? flags text).bind fun (first, rest) =>
    let alone := if first.isItem flags then some (flags.skip rest) else none
    match flags.skip rest with
    | '-' :: more =>
      if [some ']', some '-'].contains (flags.behindHyphen? more) then alone
      else (Atom.read? flags (flags.skip more)).bind fun (last, rest) =>
        if first.isRange flags last then some rest else none
    | _ => alone

/-- What a construct does to the innermost class. -/
inductive Class.Step where
  /-- The class goes on. -/
  | next (cls : Class)
  /-- Another class opens in it. -/
  | nested (cls : Class)
  /-- The class closes. -/
  | closed
  deriving Repr, DecidableEq

/-- One construct of a class, which begins with the character, and the rest. -/
def Class.step? (flags : Flags) (cls : Class) (c : Char) (rest : List Char) :
    Option (Class.Step × List Char) :=
  let hyphen := Atom.literal '-' false
  if c = '^' && cls.stage = .opened then
    -- what a class of bytes leaves out is not ASCII
    if flags.unicode then some (.next { cls with stage := .led }, rest) else none
  else if c = '-' && cls.stage != .inside then
    if hyphen.isItem flags then some (.next { cls.push 0 with stage := .led }, rest) else none
  else if c = ']' && cls.stage != .inside && cls.items.size = 0 then
    if hyphen.isItem flags then some (.next (cls.push 0), rest) else none
  else if c = ']' then some (.closed, rest)
  else if c = '[' then
    match readNamed? rest with
    | some (negated, rest) =>
      if namedIsItem flags negated then some (.next (cls.push 0), rest) else none
    | none => some (.nested { cls with stage := .inside }, rest)
  else if ['&', '-', '~'].contains c && rest.head? = some c then
    some (.next cls.operator, rest.drop 1)
  else (behindItem? flags (c :: rest)).map fun rest => (.next (cls.push 0), rest)

end ScaleMetrics.Text.Pattern
