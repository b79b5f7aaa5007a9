import ResourceTemplate.Text.Line
import ResourceTemplate.Text.Width

/-!
# Tables

A table is drawn with a frame and with a rule below its header.  Each column is as wide as the
widest line in it, and each row as high as its highest cell.  Cells stand at the left and at the
top, with a space on both sides.
-/

namespace ResourceTemplate.Text

/-- A cell: its lines. -/
abbrev Cell := List (List Char)

namespace Cell

/-- The cell of a text. -/
def ofString (s : String) : Cell := splitLines s.toList

/-- How many columns of text the cell takes. -/
def width (cell : Cell) : Nat := (cell.map Text.width).foldl max 0

/-- A line of the cell, filled up to a width. -/
def filled (columns index : Nat) (cell : Cell) : List Char :=
  let line := cell.getD index []
  ' ' :: line ++ List.replicate (columns - Text.width line) ' ' ++ [' ']

end Cell

/-- A header and rows of cells below it. -/
structure Table where
  header : List Cell
  rows : List (List Cell)

namespace Table

/-- The greater of the numbers at each place of two lists. -/
def greater : List Nat → List Nat → List Nat
  | [], ys => ys
  | xs, [] => xs
  | x :: xs, y :: ys => max x y :: greater xs ys

/-- The widths of the columns. -/
def widths (t : Table) : List Nat :=
  (t.header :: t.rows).foldl (fun widest row => greater widest (row.map Cell.width)) []

/-- Pieces with a character between them and at the ends. -/
def framed (left between right : Char) (pieces : List (List Char)) : List Char :=
  left :: (pieces.intersperse [between]).flatten ++ [right]

/-- A horizontal rule. -/
def rule (left between right : Char) (widths : List Nat) : List Char :=
  framed left between right (widths.map fun columns => List.replicate (columns + 2) '─')

/-- The lines of a row. -/
def rowLines (widths : List Nat) (row : List Cell) : List (List Char) :=
  let height := (row.map List.length).foldl max 0
  (List.range height).map fun index =>
    framed '│' '│' '│' (List.zipWith (fun columns cell => cell.filled columns index) widths row)

/-- The lines of the table. -/
def lines (t : Table) : List (List Char) :=
  let widths := t.widths
  rule '╭' '┬' '╮' widths :: rowLines widths t.header ++ rule '├' '┼' '┤' widths ::
    t.rows.flatMap (rowLines widths) ++ [rule '╰' '┴' '╯' widths]

/-- The text of the table; every line is ended by a newline. -/
def text (t : Table) : String :=
  String.ofList (t.lines.flatMap fun line => line ++ ['\n'])

end Table

end ResourceTemplate.Text
