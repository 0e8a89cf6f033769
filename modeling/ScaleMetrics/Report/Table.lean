import ScaleMetrics.Text.Split
import ScaleMetrics.Text.Width

/-!
# Report — Table

Tables drawn with lines and rounded corners.  Every column is as wide as its widest line, cells
are aligned to the left and the top, and one blank stands at either side of a cell.
-/

namespace ScaleMetrics.Report

/-- A cell: its lines. -/
abbrev Cell := List (List Char)

/-- The lines of a text. -/
def Cell.ofText (text : String) : Cell :=
  Text.split '\n' text.toList

/-- The columns that a cell takes. -/
def Cell.width (cell : Cell) : Nat :=
  (cell.map Text.width).foldl max 0

/-- The widths of columns, over all rows. -/
def columnWidths (rows : List (List Cell)) : List Nat :=
  match rows with
  | [] => []
  | first :: rest =>
    rest.foldl (fun widths row => List.zipWith max widths (row.map Cell.width))
      (first.map Cell.width)

/-- A line of a cell, filled up to the width of its column, with a blank at either side. -/
def paddedLine (width : Nat) (line : List Char) : List Char :=
  [' '] ++ line ++ List.replicate (width - Text.width line) ' ' ++ [' ']

/-- Parts of a line between a left, an inner and a right sign. -/
def joined (left inner right : Char) (parts : List (List Char)) : String :=
  String.ofList ([left] ++ List.intercalate [inner] parts ++ [right])

/-- A rule across the table. -/
def ruleLine (left inner right : Char) (widths : List Nat) : String :=
  joined left inner right (widths.map fun width => List.replicate (width + 2) '─')

/-- The number of lines of a row. -/
def rowHeight (row : List Cell) : Nat :=
  (row.map List.length).foldl max 0

/-- The lines of a row; a cell with fewer lines is empty below them. -/
def rowLines (widths : List Nat) (row : List Cell) : List String :=
  (List.range (rowHeight row)).map fun i =>
    joined '│' '│' '│' <|
      List.zipWith (fun width cell => paddedLine width (cell[i]?.getD [])) widths row

/-- A table of a header and rows. -/
def table (header : List String) (rows : List (List String)) : String :=
  let header := header.map Cell.ofText
  let rows := rows.map fun row => row.map Cell.ofText
  let widths := columnWidths (header :: rows)
  String.intercalate "\n" <|
    [ruleLine '╭' '┬' '╮' widths] ++ rowLines widths header ++ [ruleLine '├' '┼' '┤' widths] ++
      rows.flatMap (rowLines widths) ++ [ruleLine '╰' '┴' '╯' widths]

end ScaleMetrics.Report
