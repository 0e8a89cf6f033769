import ScaleMetrics.Instant
import ScaleMetrics.Json.Decoder
import ScaleMetrics.Text.Blank
import ScaleMetrics.Text.Digits

/-!
# Instant — Reader

Reads the text of an instant (`Instant.read?`): a date, `T` or a space, a time with seconds, and a
zone, with blanks allowed in front of the parts.  Numbers may be shorter than their width.  Of a
fraction only nine digits count.
-/

namespace ScaleMetrics.Instant

/-- A reader of the front of a text: what it read, and the rest. -/
abbrev Scan (α : Type) := StateT (List Char) Option α

namespace Scan

/-- The rest of the text. -/
def rest : Scan (List Char) :=
  get

/-- Skips blanks. -/
def blanks : Scan Unit :=
  modify Text.trimStart

/-- A character that must come next. -/
def literal (c : Char) : Scan Unit := do
  match ← get with
  | d :: rest => if d = c then set rest else failure
  | [] => failure

/-- The digits that come next, at least one, at most `width`. -/
def digits (width : Nat) : Scan (List Char) := do
  let text ← get
  let found := (text.takeWhile Char.isDigit).take width
  if found.isEmpty then failure
  set (text.drop found.length)
  return found

/-- All the digits that come next, at least one. -/
def allDigits : Scan (List Char) := do
  digits (← get).length

/-- A number of one or two digits. -/
def twoDigits : Scan Nat := do
  blanks
  return Digits.value (← digits 2)

/-- A separator between two numbers. -/
def separator (c : Char) : Scan Unit := do
  blanks
  literal c

/-- A year: up to four digits, or a sign and any number of them. -/
def year : Scan Int := do
  blanks
  match ← get with
  | '-' :: rest => do
    set rest
    return -(Digits.value (← allDigits) : Int)
  | '+' :: rest => do
    set rest
    return Digits.value (← allDigits)
  | _ => return Digits.value (← digits 4)

/-- The border of date and time. -/
def border : Scan Unit := do
  match ← get with
  | 'T' :: rest => set rest
  | 't' :: rest => set rest
  | ' ' :: rest => set rest
  | _ => failure

/-- The nanoseconds of a fraction, if there is one. -/
def fraction : Scan Nat := do
  match ← get with
  | '.' :: rest => do
    set rest
    let found ← allDigits
    let kept := found.take 9
    return Digits.value kept * Nat.pow 10 (9 - kept.length)
  | _ => return 0

/-- The text starts with `UTC`, in letters of either case. -/
def isUniversal (text : List Char) : Bool :=
  (text.take 3).map Char.toUpper == ['U', 'T', 'C']

/-- Exactly two digits. -/
def pair : Scan Nat := do
  let found ← digits 2
  if found.length = 2 then return Digits.value found else failure

/-- Hours and minutes, with any colons and blanks between them, in seconds. -/
def offset : Scan Int := do
  let hours ← pair
  modify (List.dropWhile fun c => c == ':' || Text.isBlank c)
  let minutes ← pair
  if minutes < 60 ∧ hours < 24 then return ((hours * 60 + minutes) * 60 : Nat) else failure

/-- The seconds by which a zone is ahead of universal time. -/
def zone : Scan Int := do
  blanks
  let text ← get
  if isUniversal text then
    set (text.drop 3)
    return 0
  match text with
  | 'Z' :: rest => do set rest; return 0
  | 'z' :: rest => do set rest; return 0
  | '+' :: rest => do set rest; offset
  | '-' :: rest => do set rest; return -(← offset)
  | '−' :: rest => do set rest; return -(← offset)
  | _ => failure

/-- A date that stands in the calendar and lies in the years of instants. -/
def date : Scan Date := do
  let year ← year
  separator '-'
  let month ← twoDigits
  separator '-'
  let day ← twoDigits
  let date : Date := ⟨year, month, day⟩
  if date.Valid ∧ firstYear ≤ year ∧ year ≤ lastYear then return date else failure

/-- A time of day: the second of the day and the nanosecond.  Second 60 is the leap second after
second 59. -/
def time : Scan (Nat × Nat) := do
  let hour ← twoDigits
  separator ':'
  let minute ← twoDigits
  separator ':'
  let second ← twoDigits
  let nano ← fraction
  if hour < 24 ∧ minute < 60 ∧ second ≤ 60 then
    if second = 60 then return (hour * 3600 + minute * 60 + 59, nanosPerSecond + nano)
    else return (hour * 3600 + minute * 60 + second, nano)
  else failure

/-- A whole text. -/
def instant : Scan Instant := do
  let date ← date
  border
  let (second, nano) ← time
  let offset ← zone
  blanks
  let rest ← get
  if rest.isEmpty then
    StateT.lift (of? (date.dayNumber * secondsPerDay + second - offset) nano)
  else failure

end Scan

/-- The instant a text is. -/
def read? (text : String) : Option Instant :=
  (Scan.instant.run text.toList).map (·.1)

/-- Reads the string of an instant. -/
def ofJson : Json.Decoder Instant
  | .string s =>
    match read? s with
    | some a => .ok a
    | none => .error (.malformed "time")
  | document => Json.Decoder.mismatch "a time" document

end ScaleMetrics.Instant
