import SearchFilter.Text.Wrap

/-!
# Tables for a terminal

Columns are as wide as the widest line in them, with a space on either side; a heavy box surrounds
the header and a light one the rows. A row is as high as its highest cell.

The layout stands for the library `rich`, on a console that is wide enough for a table; what is
proved of commands holds for every `Console`.
-/

namespace SearchFilter

namespace Table

/-- The pieces of a horizontal rule: its left end, its line, its joints, its right end. -/
structure Rule where
  left : Char
  line : Char
  joint : Char
  right : Char

/-- The rule above the header. -/
def topRule : Rule := ⟨'┏', '━', '┳', '┓'⟩

/-- The rule between the header and the rows. -/
def headRule : Rule := ⟨'┡', '━', '╇', '┩'⟩

/-- The rule below the rows. -/
def bottomRule : Rule := ⟨'└', '─', '┴', '┘'⟩

/-- The width of each column: that of the widest line in it. -/
def widths (header : List Text) (rows : List (List Text)) : List Nat :=
  rows.foldl (fun widths row => List.zipWith max widths (row.map Text.widestLine))
    (header.map Text.widestLine)

/-- A horizontal rule. -/
def ruleText (rule : Rule) (widths : List Nat) : Text :=
  rule.left ::
    List.intercalate [rule.joint] (widths.map fun width => List.replicate (width + 2) rule.line) ++
      [rule.right]

/-- A line with a space for every cell that it lacks. -/
def fill (width : Nat) (line : Text) : Text :=
  line ++ List.replicate (width - Text.width line) ' '

/-- A line of a cell, filled up with spaces. A joiner at the end of the line swallows the
    first of them, so what is still lacking is filled up once more. -/
def cellText (width : Nat) (line : Text) : Text :=
  ' ' :: fill width (fill width line) ++ [' ']

/-- A line of cells between bars. -/
def lineText (bar : Char) (widths : List Nat) (cells : List Text) : Text :=
  bar :: List.intercalate [bar] (List.zipWith cellText widths cells) ++ [bar]

/-- The height of a row, from the lines of its cells. -/
def height (cells : List (List Text)) : Nat := (cells.map List.length).foldl max 0

/-- The lines of a row. A cell with fewer lines than another is blank below them. -/
def rowLines (bar : Char) (widths : List Nat) (row : List Text) : List Text :=
  let cells := List.zipWith Text.wrap widths row
  (List.range (height cells)).map fun i =>
    lineText bar widths (cells.map fun lines => lines.getD i [])

/-- The lines of a table. -/
def lines (header : List Text) (rows : List (List Text)) : List Text :=
  let widths := widths header rows
  [ruleText topRule widths] ++ rowLines '┃' widths header ++ [ruleText headRule widths] ++
    rows.flatMap (rowLines '│' widths) ++ [ruleText bottomRule widths]

end Table

end SearchFilter
