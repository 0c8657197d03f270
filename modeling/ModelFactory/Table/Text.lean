import ModelFactory.Table.Columns
import ModelFactory.Text.Joined

/-!
# The text of a table

A table has its titles between two lines and its rows below them. Between columns stands one blank,
and only the line under the titles has no break.
-/

set_option autoImplicit false

namespace ModelFactory.Table

/-- So many times a character. -/
def repeated (char : Char) (count : Nat) : List Char := List.replicate count char

/-- The character that lines are drawn with. -/
def stroke : Char := '─'

/-- A line of a cell, set to a side of its column, with blanks around it. -/
def paddedLine (rightAligned : Bool) (width : Nat) (line : List Char) : List Char :=
  let blanks := repeated ' ' (width - widthOf line)
  let content := if rightAligned then blanks ++ line else line ++ blanks
  repeated ' ' padding ++ content ++ repeated ' ' padding

/-- A cell of a row. -/
structure Cell where
  lines : List (List Char)
  width : Nat
  rightAligned : Bool

/-- A cell with a text that is wrapped at its width. -/
def Cell.ofText (rightAligned : Bool) (width : Nat) (text : String) : Cell :=
  ⟨cellLines (linesOf text) width, width, rightAligned⟩

/-- Parts next to each other, with one character between neighbours. -/
def beside (between : Char) (parts : List (List Char)) : List Char :=
  Text.withSeparator between parts

/-- The lines of a row. A cell with fewer lines than another has blanks below them. -/
def rowLines (cells : List Cell) : List (List Char) :=
  (List.range (largest (cells.map (·.lines.length)))).map fun number =>
    beside ' ' (cells.map fun cell =>
      paddedLine cell.rightAligned cell.width (cell.lines.getD number []))

/-- The text of the cell of a column in a row. -/
def Column.cell (column : Column) (row width : Nat) : Cell :=
  .ofText column.rightAligned width (column.cells.getD row "")

/-- The table with these columns on a terminal of a width, without a line feed at its end. -/
def tableText (width : Nat) (columns : List Column) : String :=
  let widths := columnWidths width columns
  let sized := columns.zip widths
  let strokes := widths.map fun width => repeated stroke (width + 2 * padding)
  let titles := rowLines (sized.map fun (column, width) => .ofText false width column.title)
  let rows := (List.range (largest (columns.map (·.cells.length)))).flatMap fun row =>
    rowLines (sized.map fun (column, width) => column.cell row width)
  let lines := beside ' ' strokes :: titles ++ beside stroke strokes :: rows ++ [beside ' ' strokes]
  Text.joined "\n" (lines.map String.ofList)

end ModelFactory.Table
