/-!
# Text — Split

A text cut at every occurrence of a character.
-/

namespace ScaleMetrics.Text

/-- The parts of a text between occurrences of a character. -/
def split (separator : Char) : List Char → List (List Char)
  | [] => [[]]
  | c :: rest =>
    if c = separator then [] :: split separator rest
    else
      match split separator rest with
      | [] => [[c]]
      | first :: more => (c :: first) :: more

end ScaleMetrics.Text
