import Cyk.Chart.View
import Cyk.Text.Grapheme
import Cyk.Text.Styled

/-!
# Grids

A view drawn with lines: the tokens above and to the left, and the cells below the diagonal.  All
columns are as wide as the widest text in the grid.
-/

namespace Cyk.Grid

open Text

/-- The text with spaces after it, up to a width. -/
def pad (text : String) (columns : Nat) : String :=
  text ++ String.ofList (List.replicate (columns - width text) ' ')

/-- The width of the widest of some texts. -/
def widest (texts : List String) : Nat :=
  texts.foldl (fun columns text => Nat.max columns (width text)) 0

/-- The width of the columns: that of the widest token or label. -/
def columnWidth (view : View) : Nat :=
  widest (view.tokens ++ view.cells.map (·.label))

/-- A line between two rows. -/
def ruling (size columns : Nat) : String :=
  let field := String.ofList (List.replicate (columns + 2) '-') ++ "+"
  "+" ++ String.join (List.replicate (size + 1) field) ++ "\n"

/-- Tokens are bold. -/
def headerStyle : Style := { weight := some .bold }

/-- Cells with the start symbol are bold and green. -/
def startStyle : Style := { weight := some .bold, colour := some .green }

/-- A token at the head of a row or column. -/
def header (colour : Bool) (columns : Nat) (token : String) : Piece :=
  ⟨pad token columns, if colour then some headerStyle else none⟩

/-- The place of a cell, which may be blank. -/
def slot (colour : Bool) (columns : Nat) : Option ViewCell → Piece
  | none => ⟨pad "" columns, none⟩
  | some cell =>
    ⟨pad cell.label columns, if colour && cell.hasStart then some startStyle else none⟩

/-- A row: its head between bars, and every field with a bar after it. -/
def row (head : Piece) (fields : List Piece) : List Piece :=
  [⟨"| ", none⟩, head, ⟨" |", none⟩] ++
    fields.flatMap (fun field => [⟨" ", none⟩, field, ⟨" |", none⟩]) ++ [⟨"\n", none⟩]

/-- The grid of a view, in pieces.  A view without tokens has none. -/
def pieces (view : View) (colour : Bool) : List Piece :=
  if view.size = 0 then []
  else
    let columns := columnWidth view
    let line : Piece := ⟨ruling view.size columns, none⟩
    let top := row ⟨pad "" columns, none⟩ (view.tokens.map (header colour columns))
    let body := (view.tokens.zip view.rows).flatMap fun (token, slots) =>
      row (header colour columns token) (slots.map (slot colour columns)) ++ [line]
    line :: top ++ line :: body

/-- The grid of a view.  With `colour` headers and cells with the start symbol are marked, as far as
escape sequences are written at all. -/
def render (view : View) (colour escapes : Bool) : String :=
  renderPieces escapes (pieces view colour)

end Cyk.Grid
