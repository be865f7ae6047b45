import Cyk.Text.Styled

/-!
# Removing escape sequences

A terminal does not show the sequences that turn styles on and off.  What is left of styled pieces
when these are removed is their plain text, as long as no piece has an escape character of its own.
-/

namespace Cyk.Text

/-- The text without its escape sequences.  A sequence goes from an escape character with a bracket
behind it to the next letter `m`; `inside` says whether the text begins within one. -/
def dropEscapes (inside : Bool) : List Char → List Char
  | [] => []
  | c :: rest =>
    if inside then dropEscapes (c != 'm') rest
    else if c = '\x1b' ∧ rest.head? = some '[' then dropEscapes true rest
    else c :: dropEscapes false rest

/-- The text without its escape sequences. -/
def withoutEscapes (text : String) : String :=
  String.ofList (dropEscapes false text.toList)

/-! ## One sequence -/

/-- A sequence ends at its first letter `m`. -/
theorem dropEscapes_inside {codes : List Char} (noEnd : 'm' ∉ codes) (rest : List Char) :
    dropEscapes true (codes ++ 'm' :: rest) = dropEscapes false rest := by
  induction codes with
  | nil => rfl
  | cons c codes ih =>
    rcases List.ne_and_not_mem_of_not_mem_cons noEnd with ⟨other, later⟩
    have stays : (c != 'm') = true := bne_iff_ne.mpr other.symm
    rw [List.cons_append, dropEscapes, if_pos rfl, stays, ih later]

/-- Nothing is removed from a text without escape characters. -/
theorem dropEscapes_append {text : List Char} (plain : '\x1b' ∉ text) (rest : List Char) :
    dropEscapes false (text ++ rest) = text ++ dropEscapes false rest := by
  induction text with
  | nil => rfl
  | cons c text ih =>
    rcases List.ne_and_not_mem_of_not_mem_cons plain with ⟨other, later⟩
    rw [List.cons_append, dropEscapes, if_neg Bool.false_ne_true, if_neg fun begins =>
      other begins.1.symm, ih later, List.cons_append]

theorem dropEscapes_sequence {codes : List Char} (noEnd : 'm' ∉ codes) (rest : List Char) :
    dropEscapes false ('\x1b' :: '[' :: (codes ++ 'm' :: rest)) = dropEscapes false rest := by
  have noEnd' : 'm' ∉ '[' :: codes := by simp [noEnd]
  rw [dropEscapes, if_neg Bool.false_ne_true, if_pos ⟨rfl, rfl⟩]
  exact dropEscapes_inside noEnd' rest

/-- The numbers of a style have no letters. -/
theorem Style.letter_not_mem_codes (style : Style) :
    'm' ∉ (";".intercalate style.codes).toList := by
  rcases style with ⟨weight, colour⟩
  rcases weight with _ | weight
  · rcases colour with _ | colour
    · decide
    · cases colour <;> decide
  · rcases colour with _ | colour
    · cases weight <;> decide
    · cases weight <;> cases colour <;> decide

theorem Style.toList_opening (style : Style) :
    style.opening.toList = '\x1b' :: '[' :: ((";".intercalate style.codes).toList ++ ['m']) := by
  simp [Style.opening]

theorem dropEscapes_opening (style : Style) (rest : List Char) :
    dropEscapes false (style.opening.toList ++ rest) = dropEscapes false rest := by
  rw [style.toList_opening, List.cons_append, List.cons_append, List.append_assoc,
    List.singleton_append, dropEscapes_sequence style.letter_not_mem_codes]

theorem dropEscapes_reset (rest : List Char) :
    dropEscapes false (Style.reset.toList ++ rest) = dropEscapes false rest := by
  have noEnd : 'm' ∉ ['0'] := by decide
  exact dropEscapes_sequence noEnd rest

/-! ## Styled pieces -/

/-- A text without escape characters has no resets in it. -/
theorem Style.reopen_eq_self {opening text : List Char} (plain : '\x1b' ∉ text) :
    Style.reopen opening text = text := by
  induction text with
  | nil => simp [Style.reopen]
  | cons c text ih =>
    rcases List.ne_and_not_mem_of_not_mem_cons plain with ⟨other, later⟩
    rw [Style.reopen, ih later]
    rintro rest rfl -
    exact other rfl

theorem dropEscapes_apply (style : Style) {text : String} (plain : '\x1b' ∉ text.toList)
    (rest : List Char) :
    dropEscapes false ((style.apply text).toList ++ rest) =
      text.toList ++ dropEscapes false rest := by
  rw [Style.apply, Style.reopen_eq_self plain, String.ofList_toList, String.toList_append,
    String.toList_append, List.append_assoc, List.append_assoc, dropEscapes_opening,
    dropEscapes_append plain, dropEscapes_reset]

theorem dropEscapes_render (escapes : Bool) {piece : Piece} (plain : '\x1b' ∉ piece.text.toList)
    (rest : List Char) :
    dropEscapes false ((piece.render escapes).toList ++ rest) =
      piece.text.toList ++ dropEscapes false rest := by
  unfold Piece.render
  cases escapes with
  | false => exact dropEscapes_append plain rest
  | true =>
    rw [if_pos rfl, Piece.styled]
    cases piece.style with
    | none => exact dropEscapes_append plain rest
    | some style => exact dropEscapes_apply style plain rest

@[simp]
theorem renderPieces_nil (escapes : Bool) : renderPieces escapes [] = "" := rfl

@[simp]
theorem renderPieces_cons (escapes : Bool) (piece : Piece) (pieces : List Piece) :
    renderPieces escapes (piece :: pieces) =
      piece.render escapes ++ renderPieces escapes pieces := by
  rw [renderPieces, List.map_cons, String.join_cons, renderPieces]

@[simp]
theorem Piece.render_plain (escapes : Bool) (text : String) :
    Piece.render escapes ⟨text, none⟩ = text := by
  cases escapes <;> rfl

theorem renderPieces_append (escapes : Bool) (front back : List Piece) :
    renderPieces escapes (front ++ back) =
      renderPieces escapes front ++ renderPieces escapes back := by
  rw [renderPieces, List.map_append, String.join_append, renderPieces, renderPieces]

theorem renderPieces_flatMap {α : Type} (escapes : Bool) (items : List α)
    (pieces : α → List Piece) :
    renderPieces escapes (items.flatMap pieces) =
      String.join (items.map fun item => renderPieces escapes (pieces item)) := by
  induction items with
  | nil => rfl
  | cons item items ih =>
    rw [List.flatMap_cons, renderPieces_append, ih, List.map_cons, String.join_cons]

/-- The same piece without its style. -/
def Piece.unstyled (piece : Piece) : Piece :=
  ⟨piece.text, none⟩

/-- Pieces without styles are their plain text, whether or not escape sequences are written. -/
theorem renderPieces_unstyled (escapes : Bool) (pieces : List Piece) :
    renderPieces escapes (pieces.map Piece.unstyled) = renderPieces false pieces := by
  induction pieces with
  | nil => rfl
  | cons piece pieces ih =>
    rw [List.map_cons, renderPieces_cons, ih, renderPieces_cons, Piece.unstyled,
      Piece.render_plain]
    rfl

theorem dropEscapes_renderPieces (escapes : Bool) {pieces : List Piece}
    (plain : ∀ piece ∈ pieces, '\x1b' ∉ piece.text.toList) (rest : List Char) :
    dropEscapes false ((renderPieces escapes pieces).toList ++ rest) =
      (renderPieces false pieces).toList ++ dropEscapes false rest := by
  induction pieces with
  | nil => simp
  | cons piece pieces ih =>
    rcases List.forall_mem_cons.mp plain with ⟨here, others⟩
    rw [renderPieces_cons, renderPieces_cons, String.toList_append, String.toList_append,
      List.append_assoc, dropEscapes_render escapes here, ih others, List.append_assoc]
    rfl

/-- Without its escape sequences, styled text is the plain text of its pieces. -/
theorem withoutEscapes_renderPieces (escapes : Bool) {pieces : List Piece}
    (plain : ∀ piece ∈ pieces, '\x1b' ∉ piece.text.toList) {rest : String}
    (plainRest : '\x1b' ∉ rest.toList) :
    withoutEscapes (renderPieces escapes pieces ++ rest) = renderPieces false pieces ++ rest := by
  have nothing := dropEscapes_append plainRest []
  rw [List.append_nil] at nothing
  apply String.toList_inj.mp
  rw [withoutEscapes, String.toList_ofList, String.toList_append,
    dropEscapes_renderPieces escapes plain, nothing, dropEscapes, List.append_nil,
    String.toList_append]

/-- The plain text of pieces is that of one after another. -/
theorem toList_renderPieces_false (pieces : List Piece) :
    (renderPieces false pieces).toList = pieces.flatMap (·.text.toList) := by
  induction pieces with
  | nil => rfl
  | cons piece pieces ih =>
    rw [renderPieces_cons, String.toList_append, ih, List.flatMap_cons]
    rfl

end Cyk.Text
