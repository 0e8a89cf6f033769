import ScaleMetrics.Json
import ScaleMetrics.Binary64.Decimal
import ScaleMetrics.Text.Digits

/-!
# Json — Reader

Reads a text as one JSON document (`Json.read?`).  The reader is an automaton over the characters
of the text: its state is a stack of open containers (`Frame`) and what may come next (`Mode`).
It is strict: no comments, no trailing commas, no leading zeros, blanks between tokens only.
-/

namespace ScaleMetrics.Json

/-! ### Numbers -/

/-- A numeral taken apart: `digits`, of which the last `places` stand behind the point, and the
exponent. -/
structure Numeral where
  negative : Bool
  whole : List Char
  /-- The digits behind the point; `none` without a point. -/
  fraction : Option (List Char)
  /-- The exponent's sign and digits; `none` without an exponent. -/
  exponent : Option (Bool × List Char)
  deriving Repr

/-- The exponent at the end of a numeral. -/
def Numeral.exponent? : List Char → Option (Option (Bool × List Char))
  | [] => some none
  | c :: rest =>
    if c != 'e' && c != 'E' then none
    else
      let (negative, digits) := match rest with
        | '-' :: digits => (true, digits)
        | '+' :: digits => (false, digits)
        | digits => (false, digits)
      if digits.isEmpty || !digits.all Char.isDigit then none else some (some (negative, digits))

/-- The numeral that a text is behind its sign. -/
def Numeral.unsigned? (negative : Bool) (text : List Char) : Option Numeral := do
  let whole := text.takeWhile Char.isDigit
  guard (!whole.isEmpty && (whole.length == 1 || whole.head? != some '0'))
  match text.dropWhile Char.isDigit with
  | '.' :: rest =>
    let fraction := rest.takeWhile Char.isDigit
    guard (!fraction.isEmpty)
    let exponent ← Numeral.exponent? (rest.dropWhile Char.isDigit)
    return ⟨negative, whole, some fraction, exponent⟩
  | rest =>
    let exponent ← Numeral.exponent? rest
    return ⟨negative, whole, none, exponent⟩

/-- The numeral a text is. -/
def Numeral.ofChars? : List Char → Option Numeral
  | '-' :: text => unsigned? true text
  | text => unsigned? false text

/-- The leading digits that a 64-bit word holds, as a number, and how many digits are left. -/
def leadingWord : Nat → List Char → Nat × Nat
  | n, [] => (n, 0)
  | n, c :: rest =>
    let next := 10 * n + (c.toNat - '0'.toNat)
    if next < 0x10000000000000000 then leadingWord next rest else (n, rest.length + 1)

/-- The largest power of ten that is a double, as an exponent. -/
def tenLimit : Nat := 308

/-- `digits * 10 ^ e`, for digits of one 64-bit word, in separate roundings: the digits to a
double, then a product or quotient by the double nearest to the power of ten.  Below
`10 ^ -308` a quotient by `10 ^ 308` goes first, and below `10 ^ -616` nothing is left. -/
def scaled? (digits : Nat) (e : Int) : Option Binary64 := do
  let x ← Binary64.ofNat? digits
  if digits = 0 then return x
  let power (e : Int) : Option Binary64 := Binary64.ofNat? (Nat.pow 10 e.toNat)
  if tenLimit < e then none
  else if 0 ≤ e then x.mul? (← power e)
  else if -tenLimit ≤ e then x.div? (← power (-e))
  else if -(2 * tenLimit) ≤ e then
    let y ← x.div? (← power tenLimit)
    y.div? (← power (-e - tenLimit))
  else return Binary64.zero false

/-- Exponents are held in 32 bits. -/
def exponentBound : Nat := 0x80000000

/-- The value of a numeral with a point, an exponent or too many digits. -/
def Numeral.real? (n : Numeral) : Option Binary64 := do
  let (word, dropped) := leadingWord 0 n.whole
  let fraction := n.fraction.getD []
  let (word, left) := leadingWord word fraction
  let place : Int := dropped - (fraction.length - left : Nat)
  let magnitude ← match n.exponent with
    | none => scaled? word place
    | some (negative, digits) =>
      let e := Digits.value digits
      if exponentBound ≤ e then
        if word = 0 || negative then some (Binary64.zero false) else none
      else scaled? word (if negative then place - e else place + e)
  return if n.negative then magnitude.neg else magnitude

/-- The document of a numeral: an integer of 64 bits, another number, or broken.  The integer
zero has no sign, so `-0` is not an integer. -/
def Numeral.document (n : Numeral) : Json :=
  let real := match n.real? with
    | some x => .number (.real x)
    | none => .broken
  if n.fraction.isSome || n.exponent.isSome then real
  else
    let magnitude := Digits.value n.whole
    if n.negative then
      if 0 < magnitude && magnitude ≤ 0x8000000000000000 then int (-magnitude) else real
    else if magnitude < 0x10000000000000000 then int magnitude else real

/-! ### The automaton -/

/-- Where in an escape a string is. -/
inductive Escape where
  | none
  /-- A backslash was read. -/
  | begun
  /-- So many digits of a code unit are left, and the value of those read. -/
  | unit (left : Nat) (value : Nat)
  deriving Repr

/-- A string that is being read. -/
structure OpenText where
  /-- The characters so far, the last one first. -/
  done : List Char
  escape : Escape
  /-- The first half of a surrogate pair, waiting for the second. -/
  high : Option Nat
  /-- An escape denoted no character. -/
  broken : Bool
  deriving Repr

/-- An open container. -/
inductive Frame where
  /-- The items so far, the last one first. -/
  | items (done : List Json)
  /-- The members so far, the last one first; the key whose value is being read, `none` if it
  was broken; and whether some key was broken. -/
  | members (done : List (String × Json)) (key : Option String) (broken : Bool)
  deriving Repr

/-- What may come next. -/
inductive Mode where
  | value
  /-- A value, or the end of the array just opened. -/
  | firstItem
  /-- A key, or the end of the object just opened. -/
  | firstKey
  | key
  | colon
  /-- A comma, or the end of the innermost container. -/
  | next
  | text (isKey : Bool) (open_ : OpenText)
  /-- The characters of a numeral so far, the last one first. -/
  | numeral (done : List Char)
  /-- The rest of a word and what it stands for. -/
  | word (left : List Char) (document : Json)
  deriving Repr

/-- The state of the reader. -/
inductive State where
  | reading (stack : List Frame) (mode : Mode)
  /-- The document is complete; only blanks may follow. -/
  | complete (document : Json)
  deriving Repr

/-- A blank between tokens. -/
def isGap (c : Char) : Bool :=
  c == ' ' || c == '\n' || c == '\t' || c == '\r'

/-- A complete value goes to the innermost container. -/
def State.give (stack : List Frame) (document : Json) : State :=
  match stack with
  | [] => .complete document
  | .items done :: rest => .reading (.items (document :: done) :: rest) .next
  | .members done (some key) bad :: rest =>
    .reading (.members ((key, document) :: done) none bad :: rest) .next
  | .members done none _ :: rest => .reading (.members done none true :: rest) .next

/-- A string begins. -/
def OpenText.empty : OpenText := ⟨[], .none, none, false⟩

/-- The first character of a value. -/
def startValue (stack : List Frame) (c : Char) : Option State :=
  match c with
  | '"' => some (.reading stack (.text false .empty))
  | '[' => some (.reading (.items [] :: stack) .firstItem)
  | '\x7b' => some (.reading (.members [] none false :: stack) .firstKey)
  | 't' => some (.reading stack (.word ['r', 'u', 'e'] (.bool true)))
  | 'f' => some (.reading stack (.word ['a', 'l', 's', 'e'] (.bool false)))
  | 'n' => some (.reading stack (.word ['u', 'l', 'l'] .null))
  | _ => if c == '-' || c.isDigit then some (.reading stack (.numeral [c])) else none

/-- The innermost container ends. -/
def close (stack : List Frame) (c : Char) : Option State :=
  match stack, c with
  | .items done :: rest, ']' => some (.give rest (.array done.reverse))
  | .members done _ bad :: rest, '\x7d' =>
    some (.give rest (if bad then .broken else .object done.reverse))
  | _, _ => none

/-- What follows a complete value. -/
def afterValue (stack : List Frame) (c : Char) : Option State :=
  if isGap c then some (.reading stack .next)
  else if c == ',' then
    match stack with
    | .items _ :: _ => some (.reading stack .value)
    | .members .. :: _ => some (.reading stack .key)
    | [] => none
  else close stack c

/-- A character joins the string; a waiting half of a pair is lost. -/
def OpenText.push (text : OpenText) (c : Char) : OpenText :=
  ⟨c :: text.done, .none, none, text.broken || text.high.isSome⟩

/-- A code unit joins the string: a character, or half of a surrogate pair. -/
def OpenText.pushUnit (text : OpenText) (unit : Nat) : OpenText :=
  if 0xdc00 ≤ unit && unit ≤ 0xdfff then
    match text.high with
    | some high =>
      let code := 0x10000 + (high - 0xd800) * 0x400 + (unit - 0xdc00)
      ⟨Char.ofNat code :: text.done, .none, none, text.broken⟩
    | none => ⟨text.done, .none, none, true⟩
  else if 0xd800 ≤ unit && unit ≤ 0xdbff then
    ⟨text.done, .none, some unit, text.broken || text.high.isSome⟩
  else text.push (Char.ofNat unit)

/-- The character that a one-letter escape stands for. -/
def escaped? : Char → Option Char
  | '"' => some '"'
  | '\\' => some '\\'
  | '/' => some '/'
  | 'b' => some '\x08'
  | 'f' => some '\x0c'
  | 'n' => some '\n'
  | 'r' => some '\r'
  | 't' => some '\t'
  | _ => none

/-- A string ends. -/
def endText (stack : List Frame) (isKey : Bool) (text : OpenText) : Option State :=
  let result : Option String :=
    if text.broken || text.high.isSome then none else some (String.ofList text.done.reverse)
  if isKey then
    match stack with
    | .members done _ bad :: rest => some (.reading (.members done result bad :: rest) .colon)
    | _ => none
  else
    some (.give stack (match result with
      | some s => .string s
      | none => .broken))

/-- The next character of a string. -/
def stepText (stack : List Frame) (isKey : Bool) (text : OpenText) (c : Char) : Option State :=
  let continued (text : OpenText) : Option State := some (.reading stack (.text isKey text))
  match text.escape with
  | .none =>
    if c == '"' then endText stack isKey text
    else if c == '\\' then continued { text with escape := .begun }
    else if c.toNat < 0x20 then none
    else continued (text.push c)
  | .begun =>
    if c == 'u' then continued { text with escape := .unit 4 0 }
    else (escaped? c).bind fun d => continued (text.push d)
  | .unit left value =>
    (Digits.hex? c).bind fun d =>
      let value := 16 * value + d
      if left ≤ 1 then continued (text.pushUnit value)
      else continued { text with escape := .unit (left - 1) value }

/-- A character that can stand in a numeral. -/
def isNumeralChar (c : Char) : Bool :=
  c.isDigit || c == '-' || c == '+' || c == '.' || c == 'e' || c == 'E'

/-- What follows a value that is complete only now. -/
def State.follow (c : Char) : State → Option State
  | .complete document => if isGap c then some (.complete document) else none
  | .reading stack _ => afterValue stack c

/-- One character. -/
def step (state : State) (c : Char) : Option State :=
  match state with
  | .complete document => if isGap c then some (.complete document) else none
  | .reading stack mode =>
    match mode with
    | .text isKey text => stepText stack isKey text c
    | .numeral done =>
      if isNumeralChar c then some (.reading stack (.numeral (c :: done)))
      else do
        let numeral ← Numeral.ofChars? done.reverse
        (State.give stack numeral.document).follow c
    | .word left document =>
      match left with
      | [] => (State.give stack document).follow c
      | expected :: rest =>
        if c == expected then some (.reading stack (.word rest document)) else none
    | .next => afterValue stack c
    | .value => if isGap c then some state else startValue stack c
    | .firstItem =>
      if isGap c then some state
      else if c == ']' then close stack c
      else startValue stack c
    | .firstKey =>
      if isGap c then some state
      else if c == '\x7d' then close stack c
      else if c == '"' then some (.reading stack (.text true .empty))
      else none
    | .key =>
      if isGap c then some state
      else if c == '"' then some (.reading stack (.text true .empty))
      else none
    | .colon =>
      if isGap c then some state
      else if c == ':' then some (.reading stack .value)
      else none

/-- The state behind the characters. -/
def run : State → List Char → Option State
  | state, [] => some state
  | state, c :: rest => (step state c).bind fun state => run state rest

/-- The document a text is; a blank at the end completes a numeral or word that ends the text. -/
def read? (text : String) : Option Json :=
  match run (.reading [] .value) (text.toList ++ [' ']) with
  | some (.complete document) => some document
  | _ => none

end ScaleMetrics.Json
