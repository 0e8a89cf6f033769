/-!
# Report — Style

Colours of a terminal.  A style is put around a text by escape sequences when colours are on,
and leaves the text alone when they are off.
-/

namespace ScaleMetrics.Report

/-- How a text stands out. -/
inductive Style where
  | yellow
  | boldGreen
  | boldRed
  | boldYellow
  deriving Repr, DecidableEq

/-- The parameters of the escape sequence. -/
def Style.code : Style → String
  | .yellow => "33"
  | .boldGreen => "1;32"
  | .boldRed => "1;31"
  | .boldYellow => "1;33"

/-- The text in a style, when colours are on. -/
def Style.paint (style : Style) (colours : Bool) (text : String) : String :=
  if colours then "\x1b[" ++ style.code ++ "m" ++ text ++ "\x1b[0m" else text

/-- A number of pods that are missing from a metric; any but zero stands out. -/
def gap (colours : Bool) (count : Nat) : String :=
  if count = 0 then "0" else Style.yellow.paint colours (toString count)

end ScaleMetrics.Report
