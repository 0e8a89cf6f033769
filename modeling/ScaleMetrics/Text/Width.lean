import ScaleMetrics.Text.Ligature
import ScaleMetrics.Text.Wide

/-!
# Text — Width

How many columns a line takes on a terminal.  A wide character takes two columns, a character of
`zeroWidth` none, and any other one, controls included (`charWidth`).  Ligatures and emoji of
several characters take fewer columns than their characters by themselves.

A line is read from its end: what stands behind a character (`Behind`) decides how many columns
the character adds (`step`).
-/

namespace ScaleMetrics.Text

/-- The columns of a character by itself. -/
def charWidth (c : Char) : Nat :=
  if c.toNat ≤ 0xa0 then 1
  else if c = '\u17d8' then 3
  else if c = '\u17a4' then 2
  else if zeroWidth.has c then 0
  else if wide.has c then 2
  else 1

/-- What stands behind a joiner: part of an emoji that more can be joined to. -/
inductive Joined where
  | emoji
  | keycap
  /-- One letter of a flag. -/
  | regional
  /-- Some letters of flags. -/
  | regionals (even : Bool)
  /-- The end of the tags of a flag. -/
  | tagEnd
  | tagLetters (count : Nat)
  | tagDigits (count : Nat)
  deriving Repr, DecidableEq

/-- What stands behind a character. -/
inductive Behind where
  | nothing
  | tone
  /-- One letter of a flag. -/
  | regional
  /-- Some letters of flags. -/
  | regionals
  | picture
  | joined (j : Joined)
  | ligature (l : Ligature)
  deriving Repr, DecidableEq

/-- How a selector asks for the character in front of it to be shown. -/
inductive Shown where
  | asText
  | asEmoji
  deriving Repr, DecidableEq

/-- What has been read of a line, from its end. -/
structure WidthState where
  behind : Behind
  shown : Option Shown
  deriving Repr, DecidableEq

namespace Joined

/-- The character in front continues an emoji behind a joiner: the columns that it adds, and what
then stands behind. -/
def taken? (joined : Joined) (c : Char) : Option (Int × Behind) :=
  let isTagLetter := 0xe0061 ≤ c.toNat && c.toNat ≤ 0xe007a
  let isTagDigit := 0xe0030 ≤ c.toNat && c.toNat ≤ 0xe0039
  let isBlackFlag := c.toNat = 0x1f3f4
  match joined with
  | .emoji =>
    if c = '\u20e3' then some (0, .joined .keycap)
    else if isRegional c then some (1, .joined .regional)
    else if isTone c then some (0, .tone)
    else if c.toNat = 0xe007f then some (0, .joined .tagEnd)
    else if isPicture c then some (0, .picture)
    else none
  | .keycap => none
  | .regional => if isRegional c then some (-1, .joined (.regionals true)) else none
  | .regionals true =>
    if isRegional c then some (3, .joined (.regionals false))
    else if c = joiner then some (0, .joined .emoji)
    else none
  | .regionals false =>
    if isRegional c then some (-1, .joined (.regionals true))
    else if c = joiner then some (0, .joined .emoji)
    else none
  | .tagEnd =>
    if isTagLetter then some (0, .joined (.tagLetters 1))
    else if isTagDigit then some (0, .joined (.tagDigits 1))
    else none
  | .tagLetters count =>
    if isTagLetter && count < 6 then some (0, .joined (.tagLetters (count + 1)))
    else if isTagDigit && count < 5 then some (0, .joined (.tagDigits 1))
    else if isBlackFlag && 3 ≤ count then some (0, .picture)
    else none
  | .tagDigits count =>
    if isTagDigit && count < 3 then some (0, .joined (.tagDigits (count + 1)))
    else if isBlackFlag && count = 3 then some (0, .picture)
    else none

end Joined

namespace Behind

/-- An emoji behind a joiner, which a selector in front of the joiner does not end. -/
def isJoinedEmoji : Behind → Bool
  | .joined .emoji | .joined .keycap => true
  | _ => false

/-- What stands behind a selector: a ligature goes on. -/
def pastSelector : Behind → Behind
  | .ligature l => .ligature l
  | _ => .nothing

/-- The ligature that stands behind, with a character of no column of its own put in front. -/
def hidden? (behind : Behind) (c : Char) : Option Behind :=
  match behind with
  | .ligature l =>
    if c = joiner then some ((l.joinedBy?.map .ligature).getD .nothing)
    else if isHiddenMark c then some behind
    else none
  | _ => none

/-- The character in front continues what stands behind. -/
def taken? (behind : Behind) (c : Char) : Option (Int × Behind) :=
  match behind with
  | .nothing => none
  | .ligature l => (l.taken? c).map fun (columns, l) => (columns, (l.map .ligature).getD .nothing)
  | .tone =>
    if takesTone c then some (0, .picture)
    else if c = joiner then some (0, .joined .emoji)
    else none
  | .regional => if isRegional c then some (1, .regionals) else none
  | .regionals =>
    if isRegional c then some (1, .regionals)
    else if c = joiner then some (0, .joined .emoji)
    else none
  | .picture => if c = joiner then some (0, .joined .emoji) else none
  | .joined j => j.taken? c

/-- What a character leaves behind for the one in front of it, if nothing joins it to what stands
behind it. -/
def ofChar (c : Char) : Behind :=
  if isTone c then .tone
  else if isRegional c then .regional
  else if isPicture c then .picture
  else ((Ligature.ofLetter? c).map .ligature).getD .nothing

end Behind

namespace WidthState

/-- Nothing has been read. -/
def start : WidthState :=
  ⟨.nothing, none⟩

/-- A character behind which no selector stands. -/
def plainStep (behind : Behind) (c : Char) : Int × WidthState :=
  if c.toNat ≤ 0xa0 then (1, start)
  else if c = emojiSelector then
    (0, ⟨if behind.isJoinedEmoji then behind else behind.pastSelector, some .asEmoji⟩)
  else if c = textSelector then (0, ⟨behind.pastSelector, some .asText⟩)
  else
    match behind.hidden? c with
    | some behind => (0, ⟨behind, none⟩)
    | none =>
      match behind.taken? c with
      | some (columns, behind) => (columns, ⟨behind, none⟩)
      | none => (charWidth c, ⟨.ofChar c, none⟩)

/-- One more character from the end of a line: the columns that it adds, and the state in front of
it. -/
def step (state : WidthState) (c : Char) : Int × WidthState :=
  match state.shown with
  | some .asEmoji =>
    if takesSelector c then (if state.behind.isJoinedEmoji then 0 else 2, ⟨.picture, none⟩)
    else plainStep state.behind.pastSelector c
  | some .asText =>
    if 0xa0 < c.toNat && c != emojiSelector && c != textSelector && shrinks c then (1, start)
    else plainStep state.behind c
  | none => plainStep state.behind c

end WidthState

/-- The columns of a line. -/
def width (line : List Char) : Nat :=
  let (columns, _) := line.reverse.foldl
    (fun (columns, state) c =>
      let (more, state) := WidthState.step state c
      (columns + more, state)) ((0 : Int), WidthState.start)
  columns.toNat

end ScaleMetrics.Text
