import ScaleMetrics.Text.Emoji
import ScaleMetrics.Text.ZeroWidth

/-!
# Text — Ligature

Letters that a script draws as one.  A text is read from its end, so a ligature begins with its last
letter (`Ligature.ofLetter?`) and is `taken` further by the letters in front of it.

Arabic joins lam and alef.  Hebrew joins alef and lamed, Old Turkic two letters and Tifinagh two
consonants around a joiner; Buginese joins a vowel and ya.  A Khmer letter below another takes no
column, and two tone letters of Lisu take one.
-/

namespace ScaleMetrics.Text

/-- What has been read of a ligature, from its end. -/
inductive Ligature where
  | alef
  | lamed (joined : Bool)
  | khmerLetter
  | ya (joined : Bool)
  /-- A joined ya, and the vowel in front of it. -/
  | vowelYa
  | consonant (joined : Bool)
  /-- A Tifinagh consonant, and the joiner of its own script in front of it. -/
  | joinerConsonant
  | lisuTone
  | orkhonI (joined : Bool)
  deriving Repr, DecidableEq

namespace Ligature

/-- The letters of the joining group of lam. -/
def isLam (c : Char) : Bool :=
  Ranges.has [(0x644, 0x644), (0x6b5, 0x6b8), (0x76a, 0x76a), (0x8a6, 0x8a6), (0x8c7, 0x8c7)] c

/-- The letters of the joining group of alef. -/
def isAlef (c : Char) : Bool :=
  Ranges.has [(0x622, 0x623), (0x625, 0x625), (0x627, 0x627), (0x671, 0x673), (0x675, 0x675),
    (0x773, 0x774), (0x870, 0x882)] c

/-- The letters that Khmer writes below another one. -/
def isKhmerLetter (c : Char) : Bool :=
  Ranges.has [(0x1780, 0x1782), (0x1784, 0x1787), (0x1789, 0x178c), (0x178e, 0x1793),
    (0x1795, 0x1798), (0x179b, 0x179d), (0x17a0, 0x17a0), (0x17a2, 0x17a2), (0x17a7, 0x17a7),
    (0x17ab, 0x17ac), (0x17af, 0x17af)] c

/-- The consonants of Tifinagh. -/
def isTifinagh (c : Char) : Bool :=
  Ranges.has [(0x2d31, 0x2d65), (0x2d6f, 0x2d6f)] c

/-- The tone letters of Lisu that another one can precede, and those that can precede it. -/
def isLisuTone (c : Char) : Bool × Bool :=
  (Ranges.has [(0xa4fc, 0xa4fd)] c, Ranges.has [(0xa4f8, 0xa4fb)] c)

/-- The ligature that a letter can end. -/
def ofLetter? (c : Char) : Option Ligature :=
  if c = '\u05dc' then some (.lamed false)
  else if isAlef c then some .alef
  else if isKhmerLetter c then some .khmerLetter
  else if c = '\u1a10' then some (.ya false)
  else if isTifinagh c then some (.consonant false)
  else if (isLisuTone c).1 then some .lisuTone
  else if c.toNat = 0x10c03 then some (.orkhonI false)
  else none

/-- The ligature behind a joiner.  The joiner of emoji keeps Arabic letters apart. -/
def joinedBy? : Ligature → Option Ligature
  | .alef => none
  | .lamed _ => some (.lamed true)
  | .ya _ => some (.ya true)
  | .consonant _ => some (.consonant true)
  | .orkhonI _ => some (.orkhonI true)
  | other => some other

/-- The character in front continues the ligature: the columns that it adds, and what is left to
continue. -/
def taken? (ligature : Ligature) (c : Char) : Option (Int × Option Ligature) :=
  match ligature with
  | .alef =>
    if isLam c then some (0, none)
    else if isTransparent c then some (0, some .alef)
    else none
  | .lamed true => if c = '\u05d0' then some (0, none) else none
  | .khmerLetter => if c = '\u17d2' then some (-1, none) else none
  | .ya true => if c = '\u1a17' then some (0, some .vowelYa) else none
  | .vowelYa => if c = '\u1a15' then some (0, none) else none
  | .consonant joined =>
    if c = '\u2d7f' then some (1, some .joinerConsonant)
    else if joined && isTifinagh c then some (0, none)
    else none
  | .joinerConsonant => if isTifinagh c then some (-1, none) else none
  | .lisuTone => if (isLisuTone c).2 then some (0, none) else none
  | .orkhonI true => if c.toNat = 0x10c32 then some (0, none) else none
  | _ => none

end Ligature

end ScaleMetrics.Text
