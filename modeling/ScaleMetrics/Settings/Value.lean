import ScaleMetrics.Binary64.Extended
import ScaleMetrics.Dict
import ScaleMetrics.Json
import ScaleMetrics.Settings.Path

/-!
# Settings — Value

Values of settings before it is known what they are for.  A file gives documents, the environment
gives texts; a text that reads as a truth value or a number is one.  What a setting needs is
converted: a number from a text, a text from a number.

Values are put under paths one after the other (`put`).  A value takes the place of the one before
it, but tables are merged.  No setting looks into a list, or behind the keys of a table, so neither
is kept.
-/

namespace ScaleMetrics.Settings

/-- A value. -/
inductive Value where
  | flag (b : Bool)
  | integer (n : Int)
  | real (x : Binary64.Extended)
  | text (s : String)
  /-- A table with these keys. -/
  | table (keys : Names)
  | list
  | nothing
  deriving Repr, DecidableEq

namespace Value

/-- An integer of 64 bits with sign. -/
def isSigned64 (n : Int) : Bool :=
  -0x8000000000000000 ≤ n && n < 0x8000000000000000

/-- The value of a text in the environment. -/
def ofText (text : String) : Value :=
  if Text.lowered text = "true" then .flag true
  else if Text.lowered text = "false" then .flag false
  else
    match Digits.int? text.toList with
    | some n => if isSigned64 n then .integer n else ofReal
    | none => ofReal
where
  /-- The value of a text that is no integer. -/
  ofReal : Value :=
    match Binary64.Extended.read? text with
    | some x => .real x
    | none => .text text

/-- The value of a document in a file. -/
def ofJson : Json → Value
  | .bool b => .flag b
  | .number (.int n) =>
    if isSigned64 n then .integer n
    else
      match Binary64.ofNat? n.toNat with
      | some x => .real (.finite x)
      | none => .nothing
  | .number (.real x) => .real (.finite x)
  | .string s => .text s
  | .object members => .table (Names.ofList (members.map fun member => Text.lowered member.1))
  | .array _ => .list
  | .null | .broken => .nothing

/-- The value as a number of a 64-bit word. -/
def toWord? : Value → Option Nat
  | .flag b => some b.toNat
  | .integer n => if 0 ≤ n then some n.toNat else none
  | .real x => some x.toWord
  | .text s =>
    if ["true", "on", "yes"].contains (Text.lowered s) then some 1
    else if ["false", "off", "no"].contains (Text.lowered s) then some 0
    else
      let digits := match s.toList with
        | '+' :: rest => rest
        | rest => rest
      match Digits.nat? digits with
      | some n => if n ≤ Binary64.Extended.wordLimit then some n else none
      | none => none
  | .table _ | .list | .nothing => none

/-- The value as a text. -/
def toText? : Value → Option String
  | .flag b => some (if b then "true" else "false")
  | .integer n => some (toString n)
  | .real x => some x.text
  | .text s => some s
  | .table _ | .list | .nothing => none

/-- The value as a name: a text, or the only key of a table. -/
def toName? : Value → Option String
  | .text s => some s
  | .table keys =>
    match keys.toList with
    | [key] => some key
    | _ => none
  | _ => none

/-- The keys of a table; anything else has none. -/
def keys : Option Value → Names
  | some (.table keys) => keys
  | _ => Names.empty

/-- The values with one more, under a path.  A part of a table or list makes its place one.  A
table without keys leaves a value where it is. -/
def put (values : Dict Value) (path : Path) (value : Value) : Dict Value :=
  let before := values.get? path.head
  match path.steps, value with
  | [], .table added =>
    if added.toList.isEmpty && before.isSome then values
    else values.insert path.head (.table (added.toList.foldl Names.insert (keys before)))
  | [], _ => values.insert path.head value
  | .key key :: _, _ => values.insert path.head (.table ((keys before).insert key))
  | .item :: _, _ => values.insert path.head .list

end Value

end ScaleMetrics.Settings
