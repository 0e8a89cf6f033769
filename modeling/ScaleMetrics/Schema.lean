import ScaleMetrics.Instant.Printer
import ScaleMetrics.Instant.Reader

/-!
# Schema

What the parts of a resource look like that no decision depends on.  Such a part is checked when
a resource is read and written back when the resource is written, so a schema gives one reading,
`Schema.read`, whose answer is the document to write: unknown members are gone, repeated ones
have given way to the last, maps are sorted, and times are whole seconds.

A field of an object is *optional* or *needed*.  Of both kinds a document may leave out any;
an optional field then stays out, and a needed one is written with the `blank` of its schema
(`read_object_nil`).
-/

namespace ScaleMetrics

/-- A time as resources write it, to the whole second. -/
def Instant.toWholeJson (a : Instant) : Json :=
  .string a.wholeText

/-- The form of a document. -/
inductive Schema where
  | text
  | flag
  | int32
  | int64
  | time
  /-- An integer of 32 bits, or a text. -/
  | intOrText
  /-- Any document, kept as it is. -/
  | anything
  | list (item : Schema)
  | dict (value : Schema)
  | object (needed optional : List (String × Schema))
  /-- An object that may declare its type, which is always written. -/
  | resource (version kind : String) (needed optional : List (String × Schema))
  deriving Repr

namespace Schema

/-! ### Reading -/

/-- The document of a value that was read. -/
def through {α : Type} (decode : Json.Decoder α) (encode : α → Json) : Json.Decoder Json :=
  fun document => (decode document).map encode

/-- Reads an integer of 32 bits, or a text. -/
def readIntOrText : Json.Decoder Json
  | .string s => .ok (.string s)
  | document => through .signed32 Json.ofBounded document

/-- The members that tell the type of a resource. -/
def typeMembers (version kind : String) : List (String × Json) :=
  [("apiVersion", .string version), ("kind", .string kind)]

mutual

/-- What is written for a needed field that is missing: no text, zero, the epoch, no items, and an
object of its own needed fields alone. -/
def blank : Schema → Json
  | .text => .string ""
  | .time => Instant.epoch.toWholeJson
  | .flag => .bool false
  | .int32 | .int64 | .intOrText => Json.int 0
  | .anything => .null
  | .list _ => .array []
  | .dict _ => .object []
  | .object needed _ => .object (blanks needed)
  | .resource version kind needed _ => .object (typeMembers version kind ++ blanks needed)

/-- The needed fields of an object that states nothing. -/
def blanks : List (String × Schema) → List (String × Json)
  | [] => []
  | (key, schema) :: rest => (key, schema.blank) :: blanks rest

end

mutual

/-- The document as it is written back.  `levels` is how deep the containers of what is kept as
it is may nest, counted from this document. -/
def read : Schema → Nat → Json.Decoder Json
  | .text, _ => through .text .string
  | .flag, _ => through .flag .bool
  | .int32, _ => through .signed32 Json.ofBounded
  | .int64, _ => through .signed64 Json.ofBounded
  | .time, _ => through Instant.ofJson Instant.toWholeJson
  | .intOrText, _ => readIntOrText
  | .anything, levels => .raw levels
  | .list item, levels => through (.list (item.read (levels - 1))) .array
  | .dict value, levels => through (.dict (value.read (levels - 1))) (Json.ofDict id)
  | .object needed optional, levels => fun document => do
    let members ← Json.Decoder.members "object" document
    let needed ← readNeeded needed (levels - 1) members
    let optional ← readOptional optional (levels - 1) members
    return .object (needed ++ optional)
  | .resource version kind needed optional, levels => fun document => do
    let members ← Json.Decoder.members kind document
    Json.declares members "apiVersion" version
    Json.declares members "kind" kind
    let needed ← readNeeded needed (levels - 1) members
    let optional ← readOptional optional (levels - 1) members
    return .object (typeMembers version kind ++ needed ++ optional)

/-- The needed fields among the members of an object. -/
def readNeeded : List (String × Schema) → Nat → List (String × Json) →
    Except Json.DecodeError (List (String × Json))
  | [], _, _ => .ok []
  | (key, schema) :: rest, levels, members => do
    let value ← Json.fieldD members key (schema.read levels) schema.blank
    return (key, value) :: (← readNeeded rest levels members)

/-- The optional fields among the members of an object. -/
def readOptional : List (String × Schema) → Nat → List (String × Json) →
    Except Json.DecodeError (List (String × Json))
  | [], _, _ => .ok []
  | (key, schema) :: rest, levels, members => do
    let value? ← Json.field? members key (schema.read levels)
    let values ← readOptional rest levels members
    match value? with
    | some value => return (key, value) :: values
    | none => return values

end

/-! ### Objects that state nothing -/

theorem readNeeded_nil (fields : List (String × Schema)) (levels : Nat) :
    readNeeded fields levels [] = .ok (blanks fields) := by
  induction fields with
  | nil => rfl
  | cons field rest ih =>
    obtain ⟨key, schema⟩ := field
    have value : Json.fieldD [] key (schema.read levels) schema.blank = .ok schema.blank := rfl
    rw [readNeeded, value, ih, blanks]
    rfl

theorem readOptional_nil (fields : List (String × Schema)) (levels : Nat) :
    readOptional fields levels [] = .ok [] := by
  induction fields with
  | nil => rfl
  | cons field rest ih =>
    obtain ⟨key, schema⟩ := field
    have value : Json.field? [] key (schema.read levels) = .ok none := rfl
    rw [readOptional, value, ih]
    rfl

/-- An object without members is written with the blanks of its needed fields. -/
theorem read_object_nil (needed optional : List (String × Schema)) (levels : Nat) :
    (object needed optional).read levels (.object []) = .ok (object needed optional).blank := by
  simp only [read, blank, Json.Decoder.members, readNeeded_nil, readOptional_nil, bind, Except.bind,
    pure, Except.pure, List.append_nil]

/-! ### Fields of one form -/

/-- Fields that share a schema. -/
def each (schema : Schema) (keys : List String) : List (String × Schema) :=
  keys.map fun key => (key, schema)

/-- Texts. -/
def texts : List String → List (String × Schema) :=
  each .text

/-- Truth values. -/
def flags : List String → List (String × Schema) :=
  each .flag

/-- Integers of 32 bits. -/
def int32s : List String → List (String × Schema) :=
  each .int32

/-- Integers of 64 bits. -/
def int64s : List String → List (String × Schema) :=
  each .int64

/-- Lists of texts. -/
def textLists : List String → List (String × Schema) :=
  each (.list .text)

/-- Maps to texts. -/
def textDicts : List String → List (String × Schema) :=
  each (.dict .text)

end Schema

end ScaleMetrics
