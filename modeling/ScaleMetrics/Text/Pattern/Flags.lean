import ScaleMetrics.Text.Blank

/-!
# Text — Pattern — Flags

The flags of a pattern that decide what it may hold.  Letters between `(?` and `)` set them for the
rest of the group around, letters between `(?` and `:` for the group that begins there; letters
behind a hyphen take flags away (`Flags.set`).  In a verbose pattern blanks and comments stand
between constructs and mean nothing (`Flags.skip`).
-/

namespace ScaleMetrics.Text.Pattern

/-- The flags in force. -/
structure Flags where
  /-- Blanks and comments mean nothing. -/
  verbose : Bool
  /-- A letter stands for both of its cases. -/
  ignoreCase : Bool
  /-- What is matched are characters, not bytes. -/
  unicode : Bool
  deriving Repr, DecidableEq

/-- The flags that a pattern starts with. -/
def Flags.initial : Flags :=
  ⟨false, false, true⟩

/-- The letters of flags. -/
def flagLetters : List Char :=
  ['i', 'm', 's', 'U', 'u', 'R', 'x']

/-- The letters can stand in front of the end of flags: none of them twice, and at most one hyphen,
with a letter behind it. -/
def areFlags (letters : List Char) : Bool :=
  letters.all (fun c => c = '-' || flagLetters.contains c) &&
    letters.eraseDups.length = letters.length && letters.getLast? != some '-'

/-- The flags with what the letters set and take away. -/
def Flags.set (flags : Flags) (letters : List Char) : Flags :=
  let given := letters.takeWhile (· != '-')
  let flag (letter : Char) (old : Bool) : Bool :=
    if letters.contains letter then given.contains letter else old
  ⟨flag 'x' flags.verbose, flag 'i' flags.ignoreCase, flag 'u' flags.unicode⟩

/-- What is left behind blanks and comments; a comment goes from `#` to the end of its line. -/
def skipNotes (inComment : Bool) : List Char → List Char
  | [] => []
  | c :: rest =>
    if inComment then skipNotes (c != '\n') rest
    else if isBlank c then skipNotes false rest
    else if c = '#' then skipNotes true rest
    else c :: rest

/-- What is left behind what means nothing. -/
def Flags.skip (flags : Flags) (text : List Char) : List Char :=
  if flags.verbose then skipNotes false text else text

/-- The character behind a hyphen, which tells a range from a lone hyphen.  In a verbose pattern
blanks are passed over and the first mark of a comment, but not the words of the comment; where
nothing else follows, a blank counts. -/
def Flags.behindHyphen? (flags : Flags) (text : List Char) : Option Char :=
  if flags.verbose then
    let shown := match trimStart text with
      | '#' :: comment => trimStart comment
      | shown => shown
    shown.head? <|> text.head?
  else text.head?

end ScaleMetrics.Text.Pattern
