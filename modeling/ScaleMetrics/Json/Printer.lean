import ScaleMetrics.Json
import ScaleMetrics.Binary64.Decimal
import ScaleMetrics.Text.Quoted

/-!
# Json — Printer

The text of a document: on one line without blanks (`render`), or with one item or member a
line, indented by two spaces a level (`pretty`).
-/

namespace ScaleMetrics.Json

/-- One character of a string. -/
def stringChar (c : Char) : List Char :=
  match c with
  | '"' => ['\\', '"']
  | '\\' => ['\\', '\\']
  | '\x08' => ['\\', 'b']
  | '\x0c' => ['\\', 'f']
  | '\n' => ['\\', 'n']
  | '\r' => ['\\', 'r']
  | '\t' => ['\\', 't']
  | _ =>
    if c.toNat < 0x20 then
      let digits := Text.hex c.toNat
      ['\\', 'u'] ++ List.replicate (4 - digits.length) '0' ++ digits
    else [c]

/-- The text of a string, with its quotes. -/
def renderString (s : String) : String :=
  String.ofList (['"'] ++ s.toList.flatMap stringChar ++ ['"'])

/-- The text of a number. -/
def Number.render : Number → String
  | .int n => toString n
  | .real x => x.compact

mutual

/-- The document on one line; the place of a broken literal is `null`. -/
def render : Json → String
  | .null => "null"
  | .bool true => "true"
  | .bool false => "false"
  | .number n => n.render
  | .string s => renderString s
  | .array items => "[" ++ String.intercalate "," (renderItems items) ++ "]"
  | .object members => "\x7b" ++ String.intercalate "," (renderMembers members) ++ "\x7d"
  | .broken => "null"

/-- The texts of the items. -/
def renderItems : List Json → List String
  | [] => []
  | item :: rest => item.render :: renderItems rest

/-- The texts of the members. -/
def renderMembers : List (String × Json) → List String
  | [] => []
  | (key, value) :: rest => (renderString key ++ ":" ++ value.render) :: renderMembers rest

end

/-- Blanks of a nesting level. -/
def indent (level : Nat) : String :=
  String.ofList (List.replicate (2 * level) ' ')

/-- The parts of a container on lines of their own. -/
def block (opening closing : String) (level : Nat) (parts : List String) : String :=
  match parts with
  | [] => opening ++ closing
  | _ =>
    opening ++ "\n" ++
      String.intercalate ",\n" (parts.map fun part => indent (level + 1) ++ part) ++
      "\n" ++ indent level ++ closing

mutual

/-- The document with one part a line, inside `level` containers. -/
def prettyAt (level : Nat) : Json → String
  | .array items => block "[" "]" level (prettyItems (level + 1) items)
  | .object members => block "\x7b" "\x7d" level (prettyMembers (level + 1) members)
  | .null => "null"
  | .bool true => "true"
  | .bool false => "false"
  | .number n => n.render
  | .string s => renderString s
  | .broken => "null"

/-- The texts of the items, at their level. -/
def prettyItems (level : Nat) : List Json → List String
  | [] => []
  | item :: rest => prettyAt level item :: prettyItems level rest

/-- The texts of the members, at their level. -/
def prettyMembers (level : Nat) : List (String × Json) → List String
  | [] => []
  | (key, value) :: rest =>
    (renderString key ++ ": " ++ prettyAt level value) :: prettyMembers level rest

end

/-- The document over several lines. -/
def pretty (document : Json) : String :=
  prettyAt 0 document

end ScaleMetrics.Json
