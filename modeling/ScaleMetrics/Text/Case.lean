/-!
# Text — Case

Lower case, for comparison with names made of ASCII letters.  Besides the capital letters only the
Kelvin sign has an ASCII letter as its lower case; every other character is left as it is, because
it cannot be part of such a name in any case.
-/

namespace ScaleMetrics.Text

/-- The ASCII letter that is the lower case of `c`, or else `c`. -/
def lower (c : Char) : Char :=
  if c = '\u212a' then 'k' else c.toLower

/-- The text in lower case. -/
def lowered (text : String) : String :=
  String.ofList (text.toList.map lower)

end ScaleMetrics.Text
