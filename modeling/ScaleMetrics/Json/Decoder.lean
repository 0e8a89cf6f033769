import ScaleMetrics.Bounded
import ScaleMetrics.Dict
import ScaleMetrics.Json
import ScaleMetrics.Binary64.Decimal
import ScaleMetrics.Text.Quoted

/-!
# Json — Decoder

Documents as values.  A decoder refuses a document for a stated reason (`DecodeError`).

An object is read field by field in one of two ways.  The fields of a *resource* are lenient:
each may be missing or null, and of repeated fields the last counts (`field?`).  The fields of a
*record* are strict: a field occurs once, null is a value like any other, and the record may be
written as an array with the fields in their order (`recordFields`).  Unknown members are passed
over in both.
-/

namespace ScaleMetrics

namespace Json

/-- What a message calls a document. -/
def describe : Json → String
  | .null => "null"
  | .bool b => "boolean `" ++ (if b then "true" else "false") ++ "`"
  | .number (.int n) => "integer `" ++ toString n ++ "`"
  | .number (.real x) => "floating point `" ++ x.compact ++ "`"
  | .string s => "string " ++ Text.quoted s
  | .array _ => "sequence"
  | .object _ => "map"
  | .broken => "nothing"

/-- Why a document is not a value of the wanted kind. -/
inductive DecodeError where
  | unexpected (found expected : String)
  | missing (field : String)
  | repeated (field : String)
  | tooLong
  /-- No name of a closed list. -/
  | unknown (name : String)
  | malformed (expected : String)
  deriving Repr, DecidableEq

/-- The text of a reason. -/
def DecodeError.message : DecodeError → String
  | .unexpected found expected => "invalid type: " ++ found ++ ", expected " ++ expected
  | .missing field => "missing field `" ++ field ++ "`"
  | .repeated field => "duplicate field `" ++ field ++ "`"
  | .tooLong => "too many elements"
  | .unknown name => "unknown name `" ++ name ++ "`"
  | .malformed expected => "malformed " ++ expected

/-- A reading of documents. -/
abbrev Decoder (α : Type) := Json → Except DecodeError α

namespace Decoder

variable {α β : Type}

/-- The document is of another kind. -/
def mismatch (expected : String) (document : Json) : Except DecodeError α :=
  .error (.unexpected document.describe expected)

/-- A string. -/
def text : Decoder String
  | .string s => .ok s
  | document => mismatch "a string" document

/-- A truth value. -/
def flag : Decoder Bool
  | .bool b => .ok b
  | document => mismatch "a boolean" document

/-- An integer between two limits. -/
def bounded (low high : Int) : Decoder (Bounded low high)
  | .number (.int n) =>
    match Bounded.ofInt? low high n with
    | some a => .ok a
    | none => .error (.malformed "integer")
  | document => mismatch "an integer" document

/-- An integer of 64 bits with sign. -/
def signed64 : Decoder Signed64 :=
  bounded _ _

/-- An integer of 32 bits with sign. -/
def signed32 : Decoder Signed32 :=
  bounded _ _

/-- An integer of 64 bits without sign. -/
def word64 : Decoder Nat := fun document =>
  (bounded 0 0xffffffffffffffff document).map (·.val.toNat)

/-- The document itself, if every part of it denotes something. -/
def raw (levels : Nat) : Decoder Json := fun document =>
  if document.usable levels then .ok document.canonical else .error (.malformed "value")

/-- The items of an array, each read by `item`. -/
def list (item : Decoder α) : Decoder (List α)
  | .array items => items.mapM item
  | document => mismatch "a sequence" document

/-- The values of the members, each read by `value`; of repeated keys the last counts. -/
def dict (value : Decoder α) : Decoder (Dict α)
  | .object members => do
    let entries ← members.mapM fun (key, document) => do return (key, ← value document)
    return Dict.ofList entries
  | document => mismatch "a map" document

/-- The texts of an array, as a set. -/
def names : Decoder Names := fun document =>
  (list text document).map Names.ofList

/-- Null is no value. -/
def nullable (decode : Decoder α) : Decoder (Option α)
  | .null => .ok none
  | document => (decode document).map some

/-- The members of an object, under the name of what is read from it. -/
def members (name : String) : Decoder (List (String × Json))
  | .object members => .ok members
  | document => mismatch name document

end Decoder

/-! ### Fields of a resource -/

/-- The values that the members give a key, in order. -/
def valuesAt (key : String) (members : List (String × Json)) : List Json :=
  members.filterMap fun member => if member.1 = key then some member.2 else none

/-- A field of a resource. -/
def field? {α : Type} (members : List (String × Json)) (key : String) (decode : Decoder α) :
    Except DecodeError (Option α) := do
  let values ← (valuesAt key members).mapM (Decoder.nullable decode)
  return values.getLast?.join

/-- A field of a resource that has a value when it is missing. -/
def fieldD {α : Type} (members : List (String × Json)) (key : String) (decode : Decoder α)
    (default : α) : Except DecodeError α := do
  return (← field? members key decode).getD default

/-- Every value that the members give the key is this text. -/
def declares (members : List (String × Json)) (key expected : String) : Except DecodeError Unit :=
  (valuesAt key members).forM fun document => do
    let found ← Decoder.text document
    if found = expected then .ok () else .error (.unknown found)

/-! ### Fields of a record -/

/-- The member of a field, which occurs once or is missing. -/
def onlyMember (members : List (String × Json)) (field : String) :
    Except DecodeError (List (String × Json)) :=
  match valuesAt field members with
  | [] => .ok []
  | [value] => .ok [(field, value)]
  | _ => .error (.repeated field)

/-- The fields of a record that a document gives, by name or by position. -/
def recordFields (name : String) (fields : List String) :
    Decoder (List (String × Json))
  | .object members => (fields.mapM (onlyMember members)).map List.flatten
  | .array items => if items.length ≤ fields.length then .ok (fields.zip items) else .error .tooLong
  | document => Decoder.mismatch name document

/-- A field that a record must have. -/
def required {α : Type} (fields : List (String × Json)) (key : String) (decode : Decoder α) :
    Except DecodeError α :=
  match fields.lookup key with
  | some document => decode document
  | none => .error (.missing key)

/-- A field that has a value when it is missing. -/
def defaulted {α : Type} (fields : List (String × Json)) (key : String) (decode : Decoder α)
    (default : α) : Except DecodeError α :=
  match fields.lookup key with
  | some document => decode document
  | none => .ok default

/-! ### Writing objects -/

/-- The members of the fields that have a value. -/
def present (fields : List (String × Option Json)) : List (String × Json) :=
  fields.filterMap fun (key, value) => value.map fun document => (key, document)

/-- The object of the fields that have a value. -/
def record (fields : List (String × Option Json)) : Json :=
  .object (present fields)

/-- The number of a bounded integer. -/
def ofBounded {low high : Int} (n : Bounded low high) : Json :=
  int n.val

/-- The object of a map. -/
def ofDict {α : Type} (encode : α → Json) (d : Dict α) : Json :=
  .object (d.toList.map fun (key, value) => (key, encode value))

/-- The array of a list. -/
def ofList {α : Type} (encode : α → Json) (items : List α) : Json :=
  .array (items.map encode)

/-- The array of a set of texts. -/
def ofNames (names : Names) : Json :=
  .array (names.toList.map .string)

end Json

end ScaleMetrics
