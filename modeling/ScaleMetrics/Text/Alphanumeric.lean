import ScaleMetrics.Text.Alphabetic
import ScaleMetrics.Text.Numeric

/-!
# Text — Alphanumeric

Letters and numbers of every script.
-/

namespace ScaleMetrics.Text

/-- `c` is a letter or a number. -/
def isAlphanumeric (c : Char) : Bool :=
  isAlphabetic c || isNumeric c

end ScaleMetrics.Text
