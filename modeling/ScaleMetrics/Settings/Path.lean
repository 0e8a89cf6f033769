import ScaleMetrics.Text.Case
import ScaleMetrics.Text.Digits

/-!
# Settings — Path

The name of a setting as a path: a name, and then keys behind points and numbers in brackets that
lead into its value.  A text that is no such path is a name as it stands.  Case does not matter in
names and keys.
-/

namespace ScaleMetrics.Settings

/-- One step into a value. -/
inductive Path.Step where
  | key (key : String)
  /-- An item of a list. -/
  | item
  deriving Repr, DecidableEq

/-- A path, in lower case. -/
structure Path where
  head : String
  steps : List Path.Step
  deriving Repr, DecidableEq

namespace Path

/-- A character of a name. -/
def isNameChar (c : Char) : Bool :=
  c.isAlphanum || c = ' ' || c = '_' || c = '-'

/-- A name in lower case. -/
def name (text : List Char) : String :=
  String.ofList (text.map Text.lower)

/-- The text without the blanks and tabs that it starts with. -/
def behindGap (text : List Char) : List Char :=
  text.dropWhile fun c => c = ' ' || c = '\t'

/-- The number of an item, of 64 bits with sign, with blanks around it. -/
def isNumber (text : List Char) : Bool :=
  let digits := behindGap ((behindGap text).reverse)
  match digits.reverse with
  | '-' :: rest => (Digits.nat? rest).any (· ≤ 0x8000000000000000)
  | rest => (Digits.nat? rest).any (· < 0x8000000000000000)

/-- The steps behind the name at the head. -/
def steps? (text : List Char) : Option (List Step) :=
  match text with
  | [] => some []
  | '.' :: rest =>
    if (rest.takeWhile isNameChar).isEmpty then none
    else (steps? (rest.dropWhile isNameChar)).map (.key (name (rest.takeWhile isNameChar)) :: ·)
  | '[' :: rest =>
    if isNumber (rest.takeWhile (· != ']')) && rest.contains ']' then
      (steps? ((rest.dropWhile (· != ']')).drop 1)).map (.item :: ·)
    else none
  | _ => none
termination_by text.length
decreasing_by
  · have := (List.dropWhile_suffix isNameChar (l := rest)).length_le
    simp; omega
  · have := (List.dropWhile_suffix (· != ']') (l := rest)).length_le
    simp; omega

/-- The path that a text is. -/
def ofText (text : List Char) : Path :=
  let head := text.takeWhile isNameChar
  match if head.isEmpty then none else steps? (text.dropWhile isNameChar) with
  | some steps => ⟨name head, steps⟩
  | none => ⟨name text, []⟩

end Path

end ScaleMetrics.Settings
