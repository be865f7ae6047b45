import Cyk.Definition.Highlight
import Cyk.Proofs.Definition.Cutting
import Cyk.Proofs.Definition.Spelling
import Cyk.Proofs.Definition.Viability
import Cyk.Proofs.Text.Styled

/-!
# Highlighting keeps the text

The marks of a definition are cut out of it in order, so what is written in them and between them is
all of it, each character once.
-/

namespace Cyk.Definition

open Text

/-! ## Places of slices -/

namespace Cut

variable {offset : Nat} {text : List Char} {slices : List Slice}

/-- Each slice is a part of the text, and its span tells which. -/
theorem exists_parts (cut : Cut offset text slices) {slice : Slice} (member : slice ∈ slices) :
    ∃ front back, text = front ++ (slice.text.toList ++ back) ∧
      slice.span.start = offset + byteLength front ∧
      slice.span.stop = slice.span.start + byteLength slice.text.toList := by
  induction cut with
  | nil => contradiction
  | @cons offset before rest first slices start_eq stop_eq _ ih =>
    rcases List.mem_cons.mp member with rfl | later
    · exact ⟨before, rest, rfl, start_eq, stop_eq⟩
    · rcases ih later with ⟨front, back, rfl, start_eq', stop_eq'⟩
      refine ⟨before ++ (first.text.toList ++ front), back, by simp, ?_, stop_eq'⟩
      rw [start_eq', stop_eq, start_eq, byteLength_append, byteLength_append, Nat.add_assoc,
        Nat.add_assoc]

theorem offset_le (cut : Cut offset text slices) {slice : Slice} (member : slice ∈ slices) :
    offset ≤ slice.span.start := by
  rcases cut.exists_parts member with ⟨front, back, -, start_eq, -⟩
  rw [start_eq]
  exact Nat.le_add_right _ _

/-- Every slice ends before the next one begins. -/
theorem pairwise (cut : Cut offset text slices) :
    slices.Pairwise fun slice other => slice.span.stop ≤ other.span.start := by
  induction cut with
  | nil => exact List.Pairwise.nil
  | cons _ _ later ih => exact List.pairwise_cons.mpr ⟨fun _ => later.offset_le, ih⟩

end Cut

theorem Statement.nonempty_of_mem_slices {statement : Statement}
    (spelled : statement.plain.WellSpelled) {slice : Slice} (member : slice ∈ statement.slices) :
    slice.text ≠ "" := by
  have named {name : String} (identifier : isIdentifier name.toList = true) : name ≠ "" := by
    rintro rfl
    contradiction
  cases statement with
  | start symbol =>
    obtain rfl := List.mem_singleton.mp member
    exact named spelled
  | rule lhs alternatives =>
    rcases spelled with ⟨left, right⟩
    rcases List.mem_cons.mp member with rfl | later
    · exact named left
    · rcases List.mem_map.mp later with ⟨symbol, inRule, rfl⟩
      rcases List.mem_flatten.mp inRule with ⟨symbols, inAlternatives, inSymbols⟩
      have here := right _ (List.mem_map_of_mem inAlternatives) _ (List.mem_map_of_mem inSymbols)
      cases symbol with
      | terminal content => exact here.1
      | nonterminal name => exact named here

/-! ## Marks -/

theorem Statement.map_slice_marks (statement : Statement) :
    statement.marks.map Mark.slice = statement.slices := by
  have each : Mark.slice ∘ Symbol.mark = Symbol.slice := by
    funext symbol
    cases symbol <;> rfl
  cases statement with
  | start symbol => rfl
  | rule lhs alternatives => rw [marks, slices, List.map_cons, List.map_map, each]

theorem map_slice_flatMap_marks (statements : List Statement) :
    (statements.flatMap Statement.marks).map Mark.slice =
      statements.flatMap Statement.slices := by
  simp only [List.map_flatMap, Statement.map_slice_marks]

/-- What the parts of statements are: declared start symbols, left sides, and terminals and
nonterminals of right sides. -/
inductive IsMarked (statements : List Statement) : Mark → Prop where
  | startSymbol {symbol : Slice} (declared : Statement.start symbol ∈ statements) :
    IsMarked statements ⟨.startSymbol, symbol⟩
  | leftSide {lhs : Slice} {alternatives : List (List Symbol)}
    (inStatements : Statement.rule lhs alternatives ∈ statements) :
    IsMarked statements ⟨.leftSide, lhs⟩
  | terminal {lhs content : Slice} {alternatives : List (List Symbol)} {symbols : List Symbol}
    (inStatements : Statement.rule lhs alternatives ∈ statements)
    (inAlternatives : symbols ∈ alternatives) (inSymbols : Symbol.terminal content ∈ symbols) :
    IsMarked statements ⟨.terminal, content⟩
  | nonterminal {lhs name : Slice} {alternatives : List (List Symbol)} {symbols : List Symbol}
    (inStatements : Statement.rule lhs alternatives ∈ statements)
    (inAlternatives : symbols ∈ alternatives) (inSymbols : Symbol.nonterminal name ∈ symbols) :
    IsMarked statements ⟨.nonterminal, name⟩

theorem mem_flatMap_marks_iff {statements : List Statement} {mark : Mark} :
    mark ∈ statements.flatMap Statement.marks ↔ IsMarked statements mark := by
  constructor
  · intro member
    rcases List.mem_flatMap.mp member with ⟨statement, inStatements, inMarks⟩
    cases statement with
    | start symbol =>
      obtain rfl := List.mem_singleton.mp inMarks
      exact .startSymbol inStatements
    | rule lhs alternatives =>
      rcases List.mem_cons.mp inMarks with rfl | inRule
      · exact .leftSide inStatements
      · rcases List.mem_map.mp inRule with ⟨symbol, inFlattened, rfl⟩
        rcases List.mem_flatten.mp inFlattened with ⟨symbols, inAlternatives, inSymbols⟩
        cases symbol with
        | terminal content => exact .terminal inStatements inAlternatives inSymbols
        | nonterminal name => exact .nonterminal inStatements inAlternatives inSymbols
  · intro marked
    apply List.mem_flatMap.mpr
    cases marked with
    | startSymbol declared => exact ⟨_, declared, List.mem_singleton_self _⟩
    | leftSide inStatements => exact ⟨_, inStatements, List.mem_cons_self⟩
    | terminal inStatements inAlternatives inSymbols
    | nonterminal inStatements inAlternatives inSymbols =>
      have inFlattened := List.mem_flatten.mpr ⟨_, inAlternatives, inSymbols⟩
      exact ⟨_, inStatements, List.mem_cons_of_mem _ (List.mem_map_of_mem inFlattened)⟩

/-- Marks that are in order already are not moved. -/
theorem marks_eq_flatMap {statements : List Statement} {offset : Nat} {text : List Char}
    (cut : Cut offset text (statements.flatMap Statement.slices)) :
    marks statements = statements.flatMap Statement.marks := by
  apply List.mergeSort_of_pairwise
  have ordered := cut.pairwise
  rw [← map_slice_flatMap_marks, List.pairwise_map] at ordered
  refine ordered.imp_of_mem ?_
  intro mark other member _ before
  have inCut : mark.slice ∈ statements.flatMap Statement.slices := by
    rw [← map_slice_flatMap_marks]
    exact List.mem_map_of_mem member
  rcases cut.exists_parts inCut with ⟨-, -, -, -, stop_eq⟩
  have forward : mark.slice.span.start ≤ mark.slice.span.stop := by
    rw [stop_eq]
    exact Nat.le_add_right _ _
  exact decide_eq_true (Nat.le_trans forward before)

/-! ## Pieces -/

/-- Splitting behind the bytes of a front gives that front. -/
theorem splitBytes_byteLength (front back : List Char) :
    splitBytes (byteLength front) (front ++ back) = (front, back) := by
  induction front with
  | nil => rw [byteLength_nil, splitBytes, List.nil_append]
  | cons c front ih =>
    have positive : byteLength (c :: front) ≠ 0 := by
      rw [byteLength_cons]
      exact Nat.ne_of_gt (Nat.add_pos_left c.utf8Size_pos _)
    have rest : byteLength (c :: front) - c.utf8Size = byteLength front := by
      rw [byteLength_cons, Nat.add_sub_cancel_left]
    rw [List.cons_append, splitBytes, rest, ih]
    exact positive

theorem flatMap_gap (text : List Char) : (gap text).flatMap (·.text.toList) = text := by
  cases text with
  | nil => rfl
  | cons c rest => simp [gap]

/-- The pieces have all of the text, in order. -/
theorem flatMap_pieces {offset : Nat} {text : List Char} {marks : List Mark}
    (cut : Cut offset text (marks.map Mark.slice)) :
    (pieces offset text marks).flatMap (·.text.toList) = text := by
  induction marks generalizing offset text with
  | nil => exact flatMap_gap text
  | cons mark marks ih =>
    rw [List.map_cons] at cut
    cases cut with
    | @cons _ before rest _ _ start_eq stop_eq later =>
      have front : mark.slice.span.start - offset = byteLength before := by
        rw [start_eq, Nat.add_sub_cancel_left]
      have width : mark.slice.span.stop - mark.slice.span.start =
          byteLength mark.slice.text.toList := by
        rw [stop_eq, Nat.add_sub_cancel_left]
      rw [pieces, front, width]
      simp only [splitBytes_byteLength, List.flatMap_append, List.flatMap_cons, flatMap_gap,
        ih later]

/-! ## Definitions -/

section Read

variable {definition : String} {statements : List Statement}

theorem flatMap_highlight (readable : read definition = .ok statements) :
    (highlight definition statements).flatMap (·.text.toList) = definition.toList := by
  have cut := cut_of_read readable
  apply flatMap_pieces
  rwa [marks_eq_flatMap cut, map_slice_flatMap_marks]

/-- Written out plainly, a highlighted definition is the definition. -/
theorem renderPieces_highlight (readable : read definition = .ok statements) :
    renderPieces false (highlight definition statements) = definition := by
  apply String.toList_inj.mp
  rw [toList_renderPieces_false, flatMap_highlight readable]

/-- Highlighting uses no characters but those of the definition. -/
theorem mem_of_mem_highlight (readable : read definition = .ok statements) {piece : Piece}
    {c : Char} (member : piece ∈ highlight definition statements)
    (letter : c ∈ piece.text.toList) :
    c ∈ definition.toList := by
  rw [← flatMap_highlight readable]
  exact List.mem_flatMap.mpr ⟨piece, member, letter⟩

/-- A name or terminal of a definition is the part of it that its span tells. -/
theorem exists_parts_of_read (readable : read definition = .ok statements) {slice : Slice}
    (member : slice ∈ statements.flatMap Statement.slices) :
    slice.text ≠ "" ∧ ∃ front back : String, definition = front ++ slice.text ++ back ∧
      slice.span = ⟨front.utf8ByteSize, (front ++ slice.text).utf8ByteSize⟩ := by
  constructor
  · rcases List.mem_flatMap.mp member with ⟨statement, listed, inStatement⟩
    exact Statement.nonempty_of_mem_slices (wellSpelled_of_read readable statement listed)
      inStatement
  · rcases (cut_of_read readable).exists_parts member with
      ⟨front, back, whole, start_eq, stop_eq⟩
    refine ⟨String.ofList front, String.ofList back, ?_, ?_⟩
    · apply String.toList_inj.mp
      simp [whole]
    · rw [Nat.zero_add, ← utf8ByteSize_ofList] at start_eq
      rw [← utf8ByteSize_ofList, String.ofList_toList, start_eq] at stop_eq
      rw [String.utf8ByteSize_append, ← stop_eq, ← start_eq]

/-- The slices are in order, and no two overlap. -/
theorem pairwise_of_read (readable : read definition = .ok statements) :
    (statements.flatMap Statement.slices).Pairwise fun slice other =>
      slice.span.start < slice.span.stop ∧ slice.span.stop ≤ other.span.start := by
  refine (cut_of_read readable).pairwise.imp_of_mem ?_
  intro slice other member _ before
  rcases exists_parts_of_read readable member with ⟨nonempty, front, back, -, span⟩
  rw [span, String.utf8ByteSize_append] at before ⊢
  have positive : 0 < slice.text.utf8ByteSize :=
    Nat.pos_of_ne_zero fun none => nonempty (String.utf8ByteSize_eq_zero_iff.mp none)
  exact ⟨Nat.lt_add_of_pos_right positive, before⟩

end Read

end Cyk.Definition
