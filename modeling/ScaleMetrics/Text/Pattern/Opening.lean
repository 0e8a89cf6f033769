import ScaleMetrics.Text.Alphanumeric
import ScaleMetrics.Text.Pattern.Flags

/-!
# Text — Pattern — Opening

What an opening parenthesis begins (`Opening.read?`): a group, a group with a name, a group with
flags, or flags by themselves.
-/

namespace ScaleMetrics.Text.Pattern

/-- What an opening parenthesis begins. -/
inductive Opening where
  /-- A group. -/
  | group
  /-- A group with a name. -/
  | named (name : List Char)
  /-- A group with flags of its own, if any. -/
  | flagged (letters : List Char)
  /-- Flags for what follows; they are closed. -/
  | flags (letters : List Char)
  deriving Repr, DecidableEq

/-- The text can name a group. -/
def isGroupName : List Char → Bool
  | [] => false
  | c :: rest =>
    (c = '_' || isAlphabetic c) &&
      rest.all fun c => ['_', '.', '[', ']'].contains c || isAlphanumeric c

/-- A name up to its closing bracket, and the rest. -/
def readName? (text : List Char) : Option (Opening × List Char) :=
  let name := text.takeWhile (· != '>')
  match text.dropWhile (· != '>') with
  | _ :: rest => if isGroupName name then some (.named name, rest) else none
  | [] => none

/-- Flags up to their end, and the rest.  Flags by themselves are not empty. -/
def readFlags? (text : List Char) : Option (Opening × List Char) :=
  let isEnd (c : Char) : Bool := c = ':' || c = ')'
  let letters := text.takeWhile (!isEnd ·)
  if !areFlags letters then none
  else match text.dropWhile (!isEnd ·) with
    | ':' :: rest => some (.flagged letters, rest)
    | _ :: rest => if letters.isEmpty then none else some (.flags letters, rest)
    | [] => none

/-- What the text begins, which stands behind an opening parenthesis, and the rest. -/
def Opening.read? : List Char → Option (Opening × List Char)
  | '?' :: 'P' :: '<' :: rest => readName? rest
  | '?' :: '<' :: rest => readName? rest
  | '?' :: rest => readFlags? rest
  | rest => some (.group, rest)

end ScaleMetrics.Text.Pattern
