import ScaleMetrics.Binary64

/-!
# Json

JSON documents.  The members of an object are a list in the order of the text, repeated keys
included; `canonical` is the document as a tree of maps, with sorted keys of which the last
occurrence counts.  Integers of 64 bits are kept apart from all other numbers, because `1` and
`1.0` are told apart by those who read integers.

A text can hold literals that are well formed but denote nothing: a string with half of a
surrogate pair, a number beyond the largest double.  They do no harm where nobody reads them, so
the document keeps their place (`broken`); a document is `usable` when it has none of them and is
not nested too deeply.
-/

namespace ScaleMetrics

/-- A number of a document. -/
inductive Json.Number where
  /-- An integer of 64 bits, with or without sign. -/
  | int (n : Int)
  /-- Any other number. -/
  | real (x : Binary64)
  deriving Repr, DecidableEq

/-- A JSON document. -/
inductive Json where
  | null
  | bool (b : Bool)
  | number (n : Json.Number)
  | string (s : String)
  | array (items : List Json)
  | object (members : List (String × Json))
  /-- The place of a literal that denotes nothing. -/
  | broken
  deriving Repr

namespace Json

/-- The document of an integer. -/
def int (n : Int) : Json :=
  .number (.int n)

/-- Members with the key put in its sorted place; a member of the same key gives way. -/
def insertMember (key : String) (value : Json) : List (String × Json) → List (String × Json)
  | [] => [(key, value)]
  | (k, v) :: rest =>
    if key < k then (key, value) :: (k, v) :: rest
    else if key = k then (key, value) :: rest
    else (k, v) :: insertMember key value rest

/-- The members sorted by key, each key once with its last value. -/
def sortMembers (members : List (String × Json)) : List (String × Json) :=
  members.foldl (fun sorted (k, v) => insertMember k v sorted) []

mutual

/-- The document with every object sorted by key and free of repeated keys. -/
def canonical : Json → Json
  | .array items => .array (canonicalItems items)
  | .object members => .object (sortMembers (canonicalMembers members))
  | document => document

/-- The canonical items. -/
def canonicalItems : List Json → List Json
  | [] => []
  | item :: rest => item.canonical :: canonicalItems rest

/-- The members with canonical values. -/
def canonicalMembers : List (String × Json) → List (String × Json)
  | [] => []
  | (key, value) :: rest => (key, value.canonical) :: canonicalMembers rest

end

mutual

/-- Nothing in the document is broken, and its containers nest at most `levels` deep. -/
def usable : Nat → Json → Bool
  | _, .broken => false
  | 0, .array _ => false
  | 0, .object _ => false
  | levels + 1, .array items => usableItems levels items
  | levels + 1, .object members => usableMembers levels members
  | _, _ => true

/-- Every item is usable. -/
def usableItems : Nat → List Json → Bool
  | _, [] => true
  | levels, item :: rest => item.usable levels && usableItems levels rest

/-- Every value is usable. -/
def usableMembers : Nat → List (String × Json) → Bool
  | _, [] => true
  | levels, (_, value) :: rest => value.usable levels && usableMembers levels rest

end

/-- How deep the containers of a document may nest that is kept as it is. -/
def depthLimit : Nat := 127

/-- The value of the last member with the key. -/
def lastMember? (key : String) (members : List (String × Json)) : Option Json :=
  (members.reverse.find? fun member => member.1 == key).map (·.2)

/-- The value at a key of an object. -/
def get? (document : Json) (key : String) : Option Json :=
  match document with
  | .object members => lastMember? key members
  | _ => none

/-- The text of a string. -/
def string? : Json → Option String
  | .string s => some s
  | _ => none

end Json

end ScaleMetrics
