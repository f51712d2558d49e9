import SolidityAtlas.CommandLine.Columns
import SolidityAtlas.CommandLine.Markup

/-! Tables with ruled borders. The title stands in the middle above the table; what is too long for
its column goes on in the next line of the row, and what has no place to break is cut.
-/

namespace SolidityAtlas

/-- A table of marked-up texts. -/
structure Table where
  title : String
  headers : List String
  rows : List (List String)
  deriving DecidableEq, Repr

namespace Table

/-- The texts of a table, column by column, each with its header first. -/
def columns (table : Table) : List (List String) :=
  table.headers.zipIdx.map fun (header, number) =>
    header :: table.rows.map fun row => row.getD number ""

/-- The columns of the borders of a table. -/
def borderWidth (columns : Nat) : Nat :=
  columns + 1

/-- The characters of a horizontal rule: its ends, what it is drawn with and where it meets the
borders of columns.
-/
structure Rule where
  left : Char
  line : Char
  crossing : Char
  right : Char

/-- The rule above the headers. -/
def topRule : Rule :=
  ⟨'┏', '━', '┳', '┓'⟩

/-- The rule below the headers. -/
def headRule : Rule :=
  ⟨'┡', '━', '╇', '┩'⟩

/-- The rule below the last row. -/
def bottomRule : Rule :=
  ⟨'└', '─', '┴', '┘'⟩

/-- A rule over columns of given widths. -/
def Rule.draw (rule : Rule) (widths : List Nat) : List Char :=
  rule.left ::
    [rule.crossing].intercalate (widths.map fun width => List.replicate width rule.line) ++
    [rule.right]

/-- A line of a cell with a blank on both sides. -/
def cellLine (width : Nat) (line : StyledText) : List Char :=
  let inside := Text.fitSegments (width - 2) line.segments
  (Text.fitSegments width ([' '] :: inside ++ [[' ']])).flatten

/-- The lines of a cell in a column, filled with blanks if they are short. -/
def cellLines (width : Nat) (cell : StyledText) : List StyledText :=
  (cell.wrap (width - 2) .ellipsis).map (.fill (width - 2) .ellipsis)

/-- The lines of a row whose cells have some lines: as many as its highest cell has. -/
def rowLines (border : Char) (widths : List Nat) (cells : List (List StyledText))
    : List (List Char) :=
  let printed := List.zipWith (fun width lines => lines.map (cellLine width)) widths cells
  let height := (printed.map List.length).foldl max 1
  (List.range height).map fun number =>
    border ::
      [border].intercalate
        (List.zipWith (fun width lines => lines.getD number (List.replicate width ' ')) widths
          printed) ++
      [border]

/-- The title and the cells of a table, broken into lines, and the widths of its columns. -/
structure Layout where
  title : List StyledText
  header : List (List StyledText)
  rows : List (List (List StyledText))
  widths : List Nat

namespace Layout

/-- The layout of a table whose title and columns show some texts, the header of a column first. -/
def ofTexts (title : StyledText) (columns : List (List StyledText)) : Layout :=
  let borders := borderWidth columns.length
  let widths := Columns.widths (Markup.terminalWidth - borders)
    (columns.map fun column => column.map StyledText.text)
  let total := Columns.total widths + borders
  let row (number : Nat) : List (List StyledText) :=
    List.zipWith (fun width column => cellLines width (column.getD number ⟨[], []⟩)) widths columns
  let count := (columns.map List.length).foldl max 1
  { title := (title.wrap total .fold).map (.centre total)
    header := row 0
    rows := (List.range (count - 1)).map fun number => row (number + 1)
    widths := widths }

/-- All lines of text in a layout. -/
def allLines (layout : Layout) : List StyledText :=
  layout.title ++ layout.header.flatten ++ layout.rows.flatMap List.flatten

/-- The printed lines of a layout. -/
def printedLines (layout : Layout) : List (List Char) :=
  layout.title.map Markup.printedLine ++
    [topRule.draw layout.widths] ++
    rowLines '┃' layout.widths layout.header ++
    [headRule.draw layout.widths] ++
    layout.rows.flatMap (rowLines '│' layout.widths) ++
    [bottomRule.draw layout.widths]

end Layout

/-- The printed form of a table, closed by a line end. -/
def printed (table : Table) : Outcome String := do
  let columns ← table.columns.mapM fun column => column.mapM Markup.shown
  let title ← Markup.shown table.title
  let layout := Layout.ofTexts title columns
  Markup.checkStyles layout.allLines
  return Markup.closed layout.printedLines

end Table

end SolidityAtlas
