import ScaleMetrics.Text.Printable

/-!
# Text — Quoted

A text between double quotes in which every character can be told apart: the quote and the
backslash are escaped, so are line feed, carriage return, tab and the null character, and a
character that is not plain (`isPlain`) is given by its code point.  Error messages show the
texts they complain about this way.
-/

namespace ScaleMetrics.Text

/-- The hexadecimal digits of `n`, in lower case, without leading zeros. -/
def hex (n : Nat) : List Char :=
  Nat.toDigits 16 n

/-- One character of a quoted text. -/
def quotedChar (c : Char) : List Char :=
  match c with
  | '"' => ['\\', '"']
  | '\\' => ['\\', '\\']
  | '\n' => ['\\', 'n']
  | '\r' => ['\\', 'r']
  | '\t' => ['\\', 't']
  | '\x00' => ['\\', '0']
  | _ => if isPlain c then [c] else ['\\', 'u', '\x7b'] ++ hex c.toNat ++ ['\x7d']

/-- The text between double quotes, escaped. -/
def quoted (text : String) : String :=
  String.ofList (['"'] ++ text.toList.flatMap quotedChar ++ ['"'])

end ScaleMetrics.Text
