import Cyk.Grid
import Cyk.Proofs.Text.Styled

/-!
# The fields of a grid

A grid is a table of fields with one row and one column more than there are tokens.  The tokens
stand in the first row and again in the first column, and every other field is the place of the cell
that is listed last for it.  Each row is drawn between bars, with rulings above and below it.
-/

namespace Cyk

open Text

namespace View

/-- The cell that is shown at a place is the last one there. -/
theorem shown?_eq_some_iff {view : View} {row column : Nat} {cell : ViewCell} :
    view.shown? row column = some cell ↔
      cell.row = row ∧ cell.column = column ∧ ∃ before after,
        view.cells = before ++ cell :: after ∧
          ∀ other ∈ after, ¬ (other.row = row ∧ other.column = column) := by
  rw [shown?, List.find?_eq_some_iff_append]
  simp only [Bool.and_eq_true, beq_iff_eq, and_assoc]
  constructor
  · rintro ⟨atRow, atColumn, after, before, whole, elsewhere⟩
    refine ⟨atRow, atColumn, before.reverse, after.reverse, ?_, ?_⟩
    · have forwards := congrArg List.reverse whole
      rw [List.reverse_reverse] at forwards
      simpa using forwards
    · intro other member here
      have away := elsewhere other (List.mem_reverse.mp member)
      simp [here] at away
  · rintro ⟨atRow, atColumn, before, after, whole, elsewhere⟩
    refine ⟨atRow, atColumn, after.reverse, before.reverse, ?_, ?_⟩
    · simp [whole]
    · intro other member
      rw [Bool.not_eq_true', ← Bool.not_eq_true, Bool.and_eq_true, beq_iff_eq, beq_iff_eq]
      exact elsewhere other (List.mem_reverse.mp member)

theorem getElem?_rows (view : View) (row : Nat) :
    view.rows[row]? = if row < view.size then
      some ((List.range view.size).map fun column => view.shown? (row + 1) (column + 1))
    else none := by
  rw [rows, List.getElem?_map]
  split
  · rename_i inside
    rw [List.getElem?_range inside, Option.map_some]
  · rename_i outside
    rw [List.getElem?_eq_none (by simpa using outside), Option.map_none]

end View

namespace Grid

/-! ## The table -/

/-- The fields of a grid, row by row.  Without tokens there are none. -/
def fields (view : View) (colour : Bool) : List (List Piece) :=
  if view.size = 0 then []
  else
    let columns := columnWidth view
    (⟨pad "" columns, none⟩ :: view.tokens.map (header colour columns)) ::
      (view.tokens.zip view.rows).map fun (token, places) =>
        header colour columns token :: places.map (slot colour columns)

/-- The field in a row and a column, both counted from zero. -/
def fieldAt (fields : List (List Piece)) (row column : Nat) : Option Piece :=
  fields[row]?.bind (·[column]?)

/-- A line between two rows, without its line feed. -/
def rule (size columns : Nat) : String :=
  let field := String.ofList (List.replicate (columns + 2) '-') ++ "+"
  "+" ++ String.join (List.replicate (size + 1) field)

/-- A row of fields between bars. -/
def bars (escapes : Bool) (row : List Piece) : String :=
  "|" ++ String.join (row.map fun field => " " ++ field.render escapes ++ " |")

/-- The lines of a table: its rows, with a line above and a line below each of them. -/
def lines (escapes : Bool) (rule : String) : List (List Piece) → List String
  | [] => []
  | rows => rule :: rows.flatMap fun row => [bars escapes row, rule]

/-! ## Drawing -/

theorem ruling_eq (size columns : Nat) : ruling size columns = rule size columns ++ "\n" := rfl

theorem renderPieces_row (escapes : Bool) (head : Piece) (others : List Piece) :
    renderPieces escapes (row head others) = bars escapes (head :: others) ++ "\n" := by
  apply String.toList_inj.mp
  simp [row, bars, renderPieces_append, renderPieces_flatMap, String.append_assoc]

/-- A grid is drawn line by line. -/
theorem render_eq_lines (view : View) (colour escapes : Bool) :
    render view colour escapes =
      String.join ((lines escapes (rule view.size (columnWidth view)) (fields view colour)).map
        (· ++ "\n")) := by
  by_cases empty : view.size = 0
  · rw [render, pieces, fields, if_pos empty, if_pos empty]
    rfl
  · rw [render, pieces, fields, if_neg empty, if_neg empty]
    apply String.toList_inj.mp
    simp [lines, renderPieces_append, renderPieces_flatMap, renderPieces_row, ruling_eq,
      List.flatMap_map, List.map_flatMap, List.flatMap_assoc]

/-! ## What is in a field -/

section Fields

variable (view : View) (colour : Bool)

theorem fieldAt_corner :
    fieldAt (fields view colour) 0 0 =
      if view.size = 0 then none else some ⟨pad "" (columnWidth view), none⟩ := by
  rw [fieldAt, fields]
  split <;> rfl

theorem fieldAt_columnHeader (column : Nat) :
    fieldAt (fields view colour) 0 (column + 1) =
      view.tokens[column]?.map (header colour (columnWidth view)) := by
  rw [fieldAt, fields]
  split
  · rename_i empty
    rw [List.length_eq_zero_iff.mp empty]
    rfl
  · simp

theorem getElem?_zip_rows (row : Nat) :
    (view.tokens.zip view.rows)[row]? = view.tokens[row]?.map fun token =>
      (token, (List.range view.size).map fun column => view.shown? (row + 1) (column + 1)) := by
  cases listed : view.tokens[row]? with
  | none =>
    have outside : view.tokens.length ≤ row := List.getElem?_eq_none_iff.mp listed
    rw [Option.map_none, List.getElem?_eq_none_iff, List.length_zip]
    exact Nat.le_trans (Nat.min_le_left _ _) outside
  | some token =>
    have inside : row < view.size := (List.getElem?_eq_some_iff.mp listed).1
    rw [Option.map_some, List.getElem?_zip_eq_some, View.getElem?_rows, if_pos inside]
    exact ⟨listed, rfl⟩

theorem getElem?_fields (row : Nat) :
    (fields view colour)[row + 1]? = view.tokens[row]?.map fun token =>
      header colour (columnWidth view) token :: (List.range view.size).map fun column =>
        slot colour (columnWidth view) (view.shown? (row + 1) (column + 1)) := by
  rw [fields]
  split
  · rename_i empty
    rw [List.length_eq_zero_iff.mp empty]
    rfl
  · rw [List.getElem?_cons_succ, List.getElem?_map, getElem?_zip_rows, Option.map_map]
    simp only [Function.comp_def, List.map_map]

theorem fieldAt_rowHeader (row : Nat) :
    fieldAt (fields view colour) (row + 1) 0 =
      view.tokens[row]?.map (header colour (columnWidth view)) := by
  rw [fieldAt, getElem?_fields]
  cases view.tokens[row]? <;> rfl

theorem fieldAt_place (row column : Nat) :
    fieldAt (fields view colour) (row + 1) (column + 1) =
      if row < view.size ∧ column < view.size then
        some (slot colour (columnWidth view) (view.shown? (row + 1) (column + 1)))
      else none := by
  rw [fieldAt, getElem?_fields]
  by_cases inside : row < view.size
  · have listed : view.tokens[row]? = some view.tokens[row] := List.getElem?_eq_getElem inside
    rw [listed, Option.map_some, Option.bind_some, List.getElem?_cons_succ, List.getElem?_map]
    simp only [inside, true_and]
    split
    · rename_i within
      rw [List.getElem?_range within, Option.map_some]
    · rename_i beyond
      rw [List.getElem?_eq_none (by simpa using beyond), Option.map_none]
  · have missing : view.tokens[row]? = none := List.getElem?_eq_none_iff.mpr (Nat.not_lt.mp inside)
    rw [missing, if_neg fun both => inside both.1]
    rfl

end Fields

/-! ## The texts of the fields -/

/-- The text in a place that may be blank. -/
def placeText (place : Option ViewCell) : String :=
  (place.map (·.label)).getD ""

/-- The texts in the fields of a grid, before they are padded. -/
def texts (view : View) : List (List String) :=
  if view.size = 0 then []
  else
    ("" :: view.tokens) :: (view.tokens.zip view.rows).map fun (token, places) =>
      token :: places.map placeText

theorem text_slot (colour : Bool) (columns : Nat) (place : Option ViewCell) :
    (slot colour columns place).text = pad (placeText place) columns := by
  cases place <;> rfl

theorem map_text_fields (view : View) (colour : Bool) :
    (fields view colour).map (·.map Piece.text) =
      (texts view).map (·.map (pad · (columnWidth view))) := by
  rw [fields, texts]
  split
  · rfl
  · simp [header, text_slot, Function.comp_def]

/-- All texts in a grid are tokens and labels of cells. -/
theorem token_or_label_of_mem_texts {view : View} {row : List String} {text : String}
    (inTexts : row ∈ texts view) (inRow : text ∈ row) :
    text = "" ∨ text ∈ view.tokens ∨ ∃ cell ∈ view.cells, cell.label = text := by
  rw [texts] at inTexts
  split at inTexts
  · contradiction
  · rcases List.mem_cons.mp inTexts with rfl | inBody
    · rcases List.mem_cons.mp inRow with blank | token
      · exact Or.inl blank
      · exact Or.inr (Or.inl token)
    · rcases List.mem_map.mp inBody with ⟨⟨token, places⟩, listed, rfl⟩
      rcases List.mem_cons.mp inRow with rfl | inPlaces
      · exact Or.inr (Or.inl (List.of_mem_zip listed).1)
      · rcases List.mem_map.mp inPlaces with ⟨place, member, rfl⟩
        cases place with
        | none => exact Or.inl rfl
        | some cell =>
          rcases List.mem_map.mp (List.of_mem_zip listed).2 with ⟨row, -, rfl⟩
          rcases List.mem_map.mp member with ⟨column, -, shown⟩
          rcases View.shown?_eq_some_iff.mp shown with ⟨-, -, before, after, whole, -⟩
          exact Or.inr (Or.inr ⟨cell, by simp [whole], rfl⟩)

end Grid

end Cyk
