import Cyk.Proofs.Grid.Fields

/-!
# Colour in a grid

With colour a grid has the same pieces as without, and some of them are styled: the tokens in the
first row and in the first column, and the labels of shown cells with the start symbol.  So what is
left of it without the escape sequences is the grid without colour.
-/

namespace Cyk.Grid

open Text

/-! ## The same pieces -/

section Unstyled

variable (view : View)

theorem header_false (columns : Nat) :
    header false columns = Piece.unstyled ∘ header true columns := rfl

theorem slot_false (columns : Nat) : slot false columns = Piece.unstyled ∘ slot true columns := by
  funext place
  cases place <;> rfl

theorem row_unstyled (head : Piece) (others : List Piece) :
    (row head others).map Piece.unstyled = row head.unstyled (others.map Piece.unstyled) := by
  simp [row, List.map_flatMap, List.flatMap_map, Piece.unstyled]

/-- Without colour, the pieces of a grid are those with colour less their styles. -/
theorem pieces_false : pieces view false = (pieces view true).map Piece.unstyled := by
  unfold pieces
  split
  · rfl
  · simp [row_unstyled, header_false, slot_false, List.map_flatMap, Piece.unstyled]

theorem render_true_false (escapes : Bool) :
    render view true false = render view false escapes := by
  rw [render, render, pieces_false, renderPieces_unstyled]

end Unstyled

/-! ## Escape sequences -/

/-- The pieces of a row are signs of the frame and its fields. -/
theorem mem_row {piece head : Piece} {others : List Piece} (member : piece ∈ row head others) :
    piece.text ∈ ["| ", " |", " ", "\n"] ∨ piece ∈ head :: others := by
  simp only [row, List.mem_append, List.mem_cons, List.not_mem_nil, or_false,
    List.mem_flatMap] at member
  rcases member with ((rfl | rfl | rfl) | ⟨field, inRow, rfl | rfl | rfl⟩) | rfl
  · exact Or.inl (by simp)
  · exact Or.inr (by simp)
  · exact Or.inl (by simp)
  · exact Or.inl (by simp)
  · exact Or.inr (by simp [inRow])
  · exact Or.inl (by simp)
  · exact Or.inl (by simp)

/-- The pieces of a grid are signs of the frame, rulings and fields. -/
theorem mem_pieces {view : View} {colour : Bool} {piece : Piece}
    (member : piece ∈ pieces view colour) :
    piece.text ∈ [ruling view.size (columnWidth view), "| ", " |", " ", "\n"] ∨
      ∃ row ∈ fields view colour, piece ∈ row := by
  rw [pieces] at member
  rw [fields]
  split at member
  · contradiction
  · rename_i filled
    rw [if_neg filled]
    simp only [List.mem_append, List.mem_cons, List.mem_flatMap, List.not_mem_nil, or_false]
      at member
    rcases member with (rfl | inHead) | rfl | ⟨⟨token, places⟩, listed, inRow | rfl⟩
    · exact Or.inl List.mem_cons_self
    · rcases mem_row inHead with frame | field
      · exact Or.inl (List.mem_cons_of_mem _ frame)
      · exact Or.inr ⟨_, List.mem_cons_self, field⟩
    · exact Or.inl List.mem_cons_self
    · rcases mem_row inRow with frame | field
      · exact Or.inl (List.mem_cons_of_mem _ frame)
      · exact Or.inr ⟨_, List.mem_cons_of_mem _ (List.mem_map.mpr ⟨_, listed, rfl⟩), field⟩
    · exact Or.inl List.mem_cons_self

theorem escape_not_mem_pad {text : String} (plain : '\x1b' ∉ text.toList) (columns : Nat) :
    '\x1b' ∉ (pad text columns).toList := by
  simp [pad, plain]

theorem escape_not_mem_ruling (size columns : Nat) : '\x1b' ∉ (ruling size columns).toList := by
  simp [ruling]

/-- Only tokens and labels can bring escape characters into a grid. -/
theorem escape_not_mem_pieces {view : View}
    (plain : ∀ text ∈ view.tokens ++ view.cells.map (·.label), '\x1b' ∉ text.toList)
    (colour : Bool) : ∀ piece ∈ pieces view colour, '\x1b' ∉ piece.text.toList := by
  intro piece member
  rcases mem_pieces member with frame | ⟨row, listed, inRow⟩
  · simp only [List.mem_cons, List.not_mem_nil, or_false] at frame
    rcases frame with same | same | same | same | same
    · exact same ▸ escape_not_mem_ruling _ _
    all_goals
      rw [same]
      decide
  · have inTexts := List.mem_map_of_mem (f := List.map Piece.text) listed
    rw [map_text_fields] at inTexts
    rcases List.mem_map.mp inTexts with ⟨row', listed', same⟩
    have padded := List.mem_map_of_mem (f := Piece.text) inRow
    rw [← same] at padded
    rcases List.mem_map.mp padded with ⟨text, inRow', padded⟩
    rw [← padded]
    apply escape_not_mem_pad
    rcases token_or_label_of_mem_texts listed' inRow' with rfl | token | ⟨cell, inCells, rfl⟩
    · simp
    · exact plain text (by simp [token])
    · exact plain cell.label (List.mem_append_right _ (List.mem_map_of_mem inCells))

/-- Without its escape sequences, a grid with colour is the grid without. -/
theorem withoutEscapes_render {view : View}
    (plain : ∀ text ∈ view.tokens ++ view.cells.map (·.label), '\x1b' ∉ text.toList)
    (escapes : Bool) :
    withoutEscapes (render view true escapes) = render view false escapes := by
  have nothing : '\x1b' ∉ "".toList := by simp
  have removed := withoutEscapes_renderPieces escapes (escape_not_mem_pieces plain true) nothing
  rw [String.append_empty, String.append_empty] at removed
  rw [render, removed]
  exact render_true_false view escapes

/-! ## Styled fields -/

/-- The styled fields of a grid, by row and column counted from zero, each with its text and its
style: tokens are bold, and shown cells with the start symbol are bold and green. -/
inductive Styled (view : View) : Nat → Nat → String → Style → Prop
  | columnHeader {column : Nat} {token : String} (listed : view.tokens[column]? = some token) :
    Styled view 0 (column + 1) (pad token (columnWidth view)) { weight := some .bold }
  | rowHeader {row : Nat} {token : String} (listed : view.tokens[row]? = some token) :
    Styled view (row + 1) 0 (pad token (columnWidth view)) { weight := some .bold }
  | start {before after : List ViewCell} {cell : ViewCell}
    (listed : view.cells = before ++ cell :: after)
    (last : ∀ other ∈ after, ¬ (other.row = cell.row ∧ other.column = cell.column))
    (inRows : 1 ≤ cell.row ∧ cell.row ≤ view.size)
    (inColumns : 1 ≤ cell.column ∧ cell.column ≤ view.size) (hasStart : cell.hasStart = true) :
    Styled view cell.row cell.column (pad cell.label (columnWidth view))
      { weight := some .bold, colour := some .green }

theorem slot_eq_styled_iff {columns : Nat} {place : Option ViewCell} {text : String}
    {style : Style} :
    slot true columns place = ⟨text, some style⟩ ↔
      ∃ cell, place = some cell ∧ cell.hasStart = true ∧ pad cell.label columns = text ∧
        startStyle = style := by
  cases place with
  | none => simp [slot]
  | some cell =>
    cases started : cell.hasStart <;> simp [slot, started]

theorem fieldAt_eq_styled_iff {view : View} {row column : Nat} {text : String} {style : Style} :
    fieldAt (fields view true) row column = some ⟨text, some style⟩ ↔
      Styled view row column text style := by
  constructor
  · intro here
    match row, column with
    | 0, 0 =>
      rw [fieldAt_corner] at here
      split at here <;> simp at here
    | 0, column + 1 =>
      rw [fieldAt_columnHeader, Option.map_eq_some_iff] at here
      rcases here with ⟨token, listed, same⟩
      cases same
      exact .columnHeader listed
    | row + 1, 0 =>
      rw [fieldAt_rowHeader, Option.map_eq_some_iff] at here
      rcases here with ⟨token, listed, same⟩
      cases same
      exact .rowHeader listed
    | row + 1, column + 1 =>
      rw [fieldAt_place] at here
      split at here
      · rename_i inside
        rcases slot_eq_styled_iff.mp (Option.some.inj here) with
          ⟨cell, shown, hasStart, rfl, rfl⟩
        rcases View.shown?_eq_some_iff.mp shown with
          ⟨atRow, atColumn, before, after, listed, last⟩
        rw [← atRow, ← atColumn] at last ⊢
        exact .start listed last (by omega) (by omega) hasStart
      · contradiction
  · intro styled
    cases styled with
    | columnHeader listed =>
      rw [fieldAt_columnHeader, listed]
      rfl
    | rowHeader listed =>
      rw [fieldAt_rowHeader, listed]
      rfl
    | @start before after cell listed last inRows inColumns hasStart =>
      have shown : view.shown? cell.row cell.column = some cell :=
        View.shown?_eq_some_iff.mpr ⟨rfl, rfl, before, after, listed, last⟩
      have place := fieldAt_place view true (cell.row - 1) (cell.column - 1)
      rw [Nat.sub_add_cancel inRows.1, Nat.sub_add_cancel inColumns.1, shown,
        if_pos ⟨by omega, by omega⟩] at place
      rw [place, slot_eq_styled_iff.mpr ⟨cell, rfl, hasStart, rfl, rfl⟩]
      rfl

/-- **Colour only adds colour.**  Unless a token or a label has escape characters of its own, a grid
with colour is the grid without colour once the escape sequences are removed; and where none are
written the two are the same text anyway.  A grid with colour is a table of fields with bars and
rulings around them that have no style, and the fields with a style are the tokens in the first row
and column, which are bold, and the labels of those cells with the start symbol that are listed last
for their place, which are bold and green. -/
theorem colour_only_adds_escapes (view : View) :
    ((∀ text ∈ view.tokens ++ view.cells.map (·.label), '\x1b' ∉ text.toList) →
        withoutEscapes (render view true true) = render view false true) ∧
      (∀ escapes, render view true false = render view false escapes) ∧
      ∃ fields : List (List Piece),
        (∀ escapes, render view true escapes = String.join
          ((lines escapes (rule view.size (columnWidth view)) fields).map (· ++ "\n"))) ∧
        ∀ row column text style,
          fieldAt fields row column = some ⟨text, some style⟩ ↔
            Styled view row column text style := by
  refine ⟨?_, render_true_false view, fields view true, render_eq_lines view true, ?_⟩
  · intro plain
    exact withoutEscapes_render plain true
  · intro row column text style
    exact fieldAt_eq_styled_iff

/-- A view in which one place is taken twice and one cell lies outside the square. -/
def crowded : View where
  tokens := ["é", "b"]
  cells := [⟨1, 1, 1, 1, "S", true⟩, ⟨2, 1, 1, 2, "S", true⟩, ⟨1, 1, 1, 1, "A, B", false⟩,
    ⟨3, 1, 1, 3, "S", true⟩]
  accepted := true

theorem colour_only_adds_escapes_of_crowded :
    (∀ text ∈ crowded.tokens ++ crowded.cells.map (·.label), '\x1b' ∉ text.toList) ∧
      withoutEscapes (render crowded true true) =
        "+------+------+------+\n|      | é    | b    |\n" ++
          "+------+------+------+\n| é    | A, B |      |\n" ++
            "+------+------+------+\n| b    | S    |      |\n+------+------+------+\n" ∧
      ∃ fields : List (List Piece),
        render crowded true true =
          String.join ((lines true (rule 2 4) fields).map (· ++ "\n")) ∧
        fieldAt fields 2 1 =
          some ⟨"S   ", some { weight := some .bold, colour := some .green }⟩ := by
  have plain : ∀ text ∈ crowded.tokens ++ crowded.cells.map (·.label), '\x1b' ∉ text.toList := by
    decide
  have uncoloured : render crowded false true =
      "+------+------+------+\n|      | é    | b    |\n" ++
        "+------+------+------+\n| é    | A, B |      |\n" ++
          "+------+------+------+\n| b    | S    |      |\n+------+------+------+\n" := by
    decide +kernel
  have columns : columnWidth crowded = 4 := by decide +kernel
  have padded : pad "S" 4 = "S   " := by decide +kernel
  have listed : crowded.cells = [⟨1, 1, 1, 1, "S", true⟩] ++
      ⟨2, 1, 1, 2, "S", true⟩ :: [⟨1, 1, 1, 1, "A, B", false⟩, ⟨3, 1, 1, 3, "S", true⟩] := rfl
  have start := Styled.start listed (by decide) (by decide) (by decide) rfl
  rw [columns, padded] at start
  rcases colour_only_adds_escapes crowded with ⟨removed, -, fields, drawn, styled⟩
  refine ⟨plain, (removed plain).trans uncoloured, fields, ?_, (styled _ _ _ _).mpr start⟩
  rw [drawn true, columns]
  rfl

end Cyk.Grid
