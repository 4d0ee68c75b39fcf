import SwitchTrace.Terminal.Markup
import SwitchTrace.Terminal.Wrap

/-!
# Tables in a box

A table has a title above it, a heading over every column, and rows of cells, all of them given
as markup. Every column is as wide as its widest line, with a blank on either side.

## Main definitions

* `Table` — a table.
* `Table.render` — its lines.
-/

namespace SwitchTrace

/-- A column of a table. -/
structure TableColumn where
  heading : String
  alignment : Wrap.Alignment
deriving Repr

/-- A table. -/
structure Table where
  title : String
  columns : List TableColumn
  rows : List (List String)
deriving Repr

namespace Table

/-! ### Widths -/

/-- The character ends a line of a cell when the cell is measured. -/
def endsLine (c : Char) : Bool :=
  ('\n' ≤ c && c ≤ '\r') || ('\x1C' ≤ c && c ≤ '\x1E') || c = '\u0085' || c = '\u2028' ||
    c = '\u2029'

/-- The columns of the widest line of a cell. -/
def cellWidth (cell : List Char) : Nat :=
  ((parts '\n' (cell.map fun c => if endsLine c then '\n' else c)).map Columns.ofChars).foldl max 0

/-- The width of a column of cells. -/
def columnWidth (cells : List (List Char)) : Nat := (cells.map cellWidth).foldl max 0

/-- The characters that the cells at a place of all rows show. -/
def cellsAt (rows : List (List (List Char))) (place : Nat) : List (List Char) :=
  rows.map fun row => row.getD place []

/-! ### Lines -/

/-- The characters of a line between cells: at its left end, between two cells, and at its right
end. -/
structure Edges where
  left : Char
  middle : Char
  right : Char

/-- The edges of the line of the heading. -/
def headingEdges : Edges := ⟨'┃', '┃', '┃'⟩

/-- The edges of the other lines with cells. -/
def cellEdges : Edges := ⟨'│', '│', '│'⟩

/-- Pieces between edges. -/
def bounded (edges : Edges) (pieces : List (List Char)) : List Char :=
  edges.left :: [edges.middle].intercalate pieces ++ [edges.right]

/-- A rule through all columns. -/
def rule (edges : Edges) (stroke : Char) (widths : List Nat) : List Char :=
  bounded edges (widths.map fun w => List.replicate (w + 2) stroke)

/-- The lines of a cell in a column of the given width. -/
def cellLines (alignment : Wrap.Alignment) (width : Nat) (cell : Marked) :
    Except MarkupFault (List (List Char)) := do
  let lines ← Markup.checkStyles (Wrap.paragraph width .ellipsis alignment cell)
  return lines.map fun line => Columns.crop width line.segments

/-- The lines of a row. A cell with fewer lines than others is filled up with blank ones. -/
def rowLines (edges : Edges) (columns : List (Wrap.Alignment × Nat)) (row : List Marked) :
    Except MarkupFault (List (List Char)) := do
  let cells ← (List.zip columns row).mapM fun (c, cell) => do
    return (c.2, ← cellLines c.1 c.2 cell)
  let height := (cells.map fun cell => cell.2.length).foldl max 0
  return (List.range height).map fun n =>
    bounded edges (cells.map fun (width, ls) =>
      let line := ls.getD n []
      ' ' :: line ++ Wrap.blanks (width + 1 - Columns.ofChars line))

/-- The lines of a table on a terminal with so many columns, which are enough for its cells. -/
def render (room : Nat) (t : Table) : Except MarkupFault (List (List Char)) := do
  let headings ← t.columns.mapM fun c => Markup.render c.heading
  let rows ← t.rows.mapM fun row => row.mapM Markup.render
  let title ← Markup.render t.title
  let widths := (List.range t.columns.length).map fun n =>
    columnWidth (cellsAt ((headings :: rows).map fun row => row.map Marked.chars) n)
  let columns := List.zip (t.columns.map TableColumn.alignment) widths
  let whole := (rule ⟨'┏', '┳', '┓'⟩ '━' widths).length
  let titleLines ← Markup.checkStyles (Wrap.paragraph whole .fold .centre title)
  let headingLines ← rowLines headingEdges columns headings
  let bodyLines ← rows.mapM fun row => rowLines cellEdges columns row
  return (titleLines.map fun line => Columns.crop room line.segments) ++ [rule ⟨'┏', '┳', '┓'⟩ '━' widths] ++ headingLines ++
    [rule ⟨'┡', '╇', '┩'⟩ '━' widths] ++ bodyLines.flatten ++
    [rule ⟨'└', '┴', '┘'⟩ '─' widths]

end Table

end SwitchTrace
