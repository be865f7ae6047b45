import Cyk.Chart.Verdict

/-!
# Views

A chart laid out in a square, ready to be drawn.  Single tokens lie on the diagonal, and the cell
of the whole sentence is in the lower left corner.
-/

namespace Cyk

/-- The label of a cell without symbols. -/
def emptyLabel : String := "Ø"

/-- A cell and its place in the square: the row is the last position of its span, and the column
the first. -/
structure ViewCell where
  row : Nat
  column : Nat
  start : Nat
  len : Nat
  label : String
  hasStart : Bool
deriving DecidableEq, Repr

/-- The labels of the tokens, and the cells in any order.  Cells may lie outside the square, or
share a place. -/
structure View where
  tokens : List String
  cells : List ViewCell
  accepted : Bool
deriving DecidableEq, Repr

namespace View

/-- The number of rows and columns. -/
def size (view : View) : Nat :=
  view.tokens.length

/-- The first cell at a place. -/
def get? (view : View) (row column : Nat) : Option ViewCell :=
  view.cells.find? fun cell => cell.row == row && cell.column == column

/-- The last cell at a place. -/
def shown? (view : View) (row column : Nat) : Option ViewCell :=
  view.cells.reverse.find? fun cell => cell.row == row && cell.column == column

/-- The square of cells, row by row; of cells at one place the last is shown. -/
def rows (view : View) : List (List (Option ViewCell)) :=
  (List.range view.size).map fun row =>
    (List.range view.size).map fun column => view.shown? (row + 1) (column + 1)

end View

/-- The label of a cell: its symbols in order, with commas between them. -/
def Names.label (symbols : Names) : String :=
  if symbols.isEmpty then emptyLabel else ", ".intercalate symbols.toList

namespace Chart

/-- The cell of a span as the view shows it. -/
def viewCell (chart : Chart) (span : Nat × Nat) : ViewCell :=
  let symbols := chart.symbols span.1 span.2
  { row := span.1 + span.2 - 1
    column := span.1
    start := span.1
    len := span.2
    label := symbols.label
    hasStart := chart.grammar.start ∈ symbols }

/-- The view of a chart: all its spans, shorter ones first and then from left to right. -/
def view (chart : Chart) : View where
  tokens := chart.tokens.map (·.text)
  cells := (spans chart.size).map chart.viewCell
  accepted := chart.accepted

end Chart

end Cyk
