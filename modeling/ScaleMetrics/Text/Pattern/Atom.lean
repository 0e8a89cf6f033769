import ScaleMetrics.Text.Digits
import ScaleMetrics.Text.Pattern.Flags

/-!
# Text — Pattern — Atom

The smallest constructs of a pattern: a character as it is, and an escape (`Atom.read?`).  What an
escape means can hang on the flags: bytes have shorthands for classes (`\d`) and edges of words
(`\b`), which know ASCII only; characters have neither, and no classes by property (`\p`).  A match
is always made of whole characters, so that a byte of its own must be ASCII.
-/

namespace ScaleMetrics.Text.Pattern

/-- A character as it is, or an escape. -/
inductive Atom where
  /-- A character; `byte` says that two hexadecimal digits wrote it. -/
  | literal (c : Char) (byte : Bool)
  /-- The class of the digits, the blanks or the letters of words, or what is not in it. -/
  | shorthand (negated : Bool)
  /-- The beginning or the end of the text. -/
  | edge
  /-- The beginning or the end of a word, or a place that is neither. -/
  | wordEdge
  deriving Repr, DecidableEq

/-- The number that so many hexadecimal digits write behind another one, and the rest. -/
def readHex? (flags : Flags) : Nat → Nat → List Char → Option (Nat × List Char)
  | 0, value, text => some (value, text)
  | count + 1, value, text =>
    match flags.skip text with
    | c :: rest => (Digits.hex? c).bind fun digit => readHex? flags count (16 * value + digit) rest
    | [] => none

/-- A character by its number in so many hexadecimal digits, and the rest. -/
def readCode? (flags : Flags) (count : Nat) (text : List Char) : Option (Atom × List Char) :=
  (readHex? flags count 0 text).bind fun (code, rest) =>
    if code.isValidChar then some (.literal (Char.ofNat code) (count = 2), rest) else none

/-- The letters that stand for a control. -/
def controls : List (Char × Char) :=
  [('a', '\x07'), ('f', '\x0c'), ('t', '\t'), ('n', '\n'), ('r', '\r'), ('v', '\x0b')]

/-- The escape that a letter stands for by itself. -/
def letterEscape? (c : Char) : Option Atom :=
  if let some control := controls.lookup c then some (.literal control false)
  else if ['d', 's', 'w'].contains c then some (.shorthand false)
  else if ['D', 'S', 'W'].contains c then some (.shorthand true)
  else if ['A', 'z'].contains c then some .edge
  else if ['b', 'B'].contains c then some .wordEdge
  else none

/-- An escape behind its backslash, and the rest. -/
def readEscape? (flags : Flags) : List Char → Option (Atom × List Char)
  | [] => none
  | c :: rest =>
    if c = 'x' then readCode? flags 2 rest
    else if c = 'u' then readCode? flags 4 rest
    else if c = 'U' then readCode? flags 8 rest
    else if c.isAlphanum then (letterEscape? c).map fun atom => (atom, rest)
    else if c = '<' || c = '>' then some (.wordEdge, rest)
    else if c.toNat < 0x80 then some (.literal c false, rest)
    else none

/-- An atom, and the rest. -/
def Atom.read? (flags : Flags) : List Char → Option (Atom × List Char)
  | [] => none
  | '\\' :: rest => readEscape? flags rest
  | c :: rest => some (.literal c false, rest)

/-- The atom can stand for itself.  Of characters only one case is known. -/
def Atom.isPiece (flags : Flags) : Atom → Bool
  | .literal c byte => if flags.unicode then !flags.ignoreCase else !byte || c.toNat < 0x80
  | .shorthand negated => !flags.unicode && !negated
  | .edge => true
  | .wordEdge => !flags.unicode

/-- The atom can stand in a class.  A class of bytes holds ASCII only. -/
def Atom.isItem (flags : Flags) : Atom → Bool
  | .literal c _ => if flags.unicode then !flags.ignoreCase else c.toNat < 0x80
  | .shorthand negated => !flags.unicode && !negated
  | .edge | .wordEdge => false

/-- The atoms are the ends of a range: two characters in order. -/
def Atom.isRange (flags : Flags) : Atom → Atom → Bool
  | .literal first byte, .literal last byte' =>
    first ≤ last && isItem flags (.literal first byte) && isItem flags (.literal last byte')
  | _, _ => false

end ScaleMetrics.Text.Pattern
