/-!
# Text — Digits

Decimal numerals of ASCII digits: the number they stand for (`Digits.value`), and readers that
take a whole text as an unsigned or a signed numeral.  `value_append` is the positional law.
A hexadecimal digit has a reader of its own (`Digits.hex?`).
-/

namespace ScaleMetrics.Digits

/-- The number a list of decimal digits stands for. -/
def value (digits : List Char) : Nat :=
  digits.foldl (fun n c => 10 * n + (c.toNat - '0'.toNat)) 0

/-- An unsigned numeral: at least one digit and nothing else. -/
def nat? (text : List Char) : Option Nat :=
  if text.isEmpty || !text.all Char.isDigit then none else some (value text)

/-- A numeral with an optional sign. -/
def int? : List Char → Option Int
  | '-' :: digits => (nat? digits).map fun n => -n
  | '+' :: digits => (nat? digits).map Int.ofNat
  | digits => (nat? digits).map Int.ofNat

/-- What a hexadecimal digit stands for. -/
def hex? (c : Char) : Option Nat :=
  if c.isDigit then some (c.toNat - '0'.toNat)
  else if 'a' ≤ c && c ≤ 'f' then some (c.toNat - 'a'.toNat + 10)
  else if 'A' ≤ c && c ≤ 'F' then some (c.toNat - 'A'.toNat + 10)
  else none

theorem foldl_value (digits : List Char) (n : Nat) :
    digits.foldl (fun n c => 10 * n + (c.toNat - '0'.toNat)) n =
      n * Nat.pow 10 digits.length + value digits := by
  induction digits generalizing n with
  | nil => simp [value]
  | cons c rest ih =>
    rw [value, List.foldl_cons, List.foldl_cons, ih, ih (10 * 0 + (c.toNat - '0'.toNat))]
    rw [List.length_cons, Nat.pow_eq, Nat.pow_eq, Nat.pow_succ]
    grind

/-- Digits in front weigh by the number of digits behind them. -/
theorem value_append (xs ys : List Char) :
    value (xs ++ ys) = value xs * Nat.pow 10 ys.length + value ys := by
  rw [value, List.foldl_append, foldl_value]
  rfl

end ScaleMetrics.Digits
