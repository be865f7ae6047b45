import Cyk.Proofs.Checker.Labels
import Cyk.Proofs.Grid.Widths
import Cyk.Proofs.Text.Layout

/-!
# Alignment of the grids of sentences

The grid of a sentence shows all its tokens and the labels of all cells of its chart.  So the lines
are equally wide just if none of these begins with a mark or ends with a sign that is put before
others.  But nothing keeps such tokens out of a sentence: an accent alone is a word like any other.
-/

namespace Cyk

open Text

namespace Grid

/-- The grid of a chart's view shows all tokens and labels that are listed in the view. -/
theorem exists_row_of_listed {chart : Chart} {text : String}
    (listed : text ∈ chart.view.tokens ++ chart.view.cells.map (·.label)) :
    ∃ row ∈ texts chart.view, text ∈ row := by
  have size_eq : chart.view.size = chart.size := List.length_map _
  rcases List.mem_append.mp listed with token | label
  · have filled : chart.view.size ≠ 0 :=
      mt List.length_eq_zero_iff.mp (List.ne_nil_of_mem token)
    rw [texts, if_neg filled]
    exact ⟨_, List.mem_cons_self, List.mem_cons_of_mem _ token⟩
  · rcases List.mem_map.mp label with ⟨cell, inCells, rfl⟩
    rcases Chart.mem_cells_view.mp inCells with ⟨start, len, ⟨positive, nonempty, inside⟩, rfl⟩
    -- Rows and columns of a table are counted from zero, those of a view from one.
    obtain ⟨column, rfl⟩ : ∃ column, start = column + 1 := ⟨start - 1, by omega⟩
    obtain ⟨row, last⟩ : ∃ row, column + len = row + 1 := ⟨column + len - 1, by omega⟩
    have filled : chart.view.size ≠ 0 := by omega
    have shown : chart.view.shown? (row + 1) (column + 1) =
        some (chart.viewCell (column + 1, len)) := by
      have length_eq : row + 1 + 1 - (column + 1) = len := by omega
      rw [Chart.shown?_view, Chart.get?_view, if_pos ⟨by omega, by omega, by omega⟩, length_eq]
    have drawn := getElem?_zip_rows chart.view row
    have within : row < chart.view.tokens.length := by
      show row < chart.view.size
      omega
    rw [List.getElem?_eq_getElem within, Option.map_some] at drawn
    rw [texts, if_neg filled]
    refine ⟨_, List.mem_cons_of_mem _ (List.mem_map_of_mem (List.mem_of_getElem? drawn)), ?_⟩
    apply List.mem_cons_of_mem
    refine List.mem_map.mpr ⟨some (chart.viewCell (column + 1, len)), ?_, rfl⟩
    exact List.mem_map.mpr ⟨column, List.mem_range.mpr (by omega), shown⟩

/-- What is said of all texts in a grid is said of all tokens and labels, if it is true of blank
fields. -/
theorem forall_texts_iff {chart : Chart} {property : String → Prop} (blank : property "") :
    (∀ row ∈ texts chart.view, ∀ text ∈ row, property text) ↔
      ∀ text ∈ chart.view.tokens ++ chart.view.cells.map (·.label), property text := by
  constructor
  · intro all text listed
    rcases exists_row_of_listed listed with ⟨row, inTexts, inRow⟩
    exact all row inTexts text inRow
  · intro all row inTexts text inRow
    rcases token_or_label_of_mem_texts inTexts inRow with rfl | token | ⟨cell, inCells, rfl⟩
    · exact blank
    · exact all text (List.mem_append_left _ token)
    · exact all _ (List.mem_append_right _ (List.mem_map_of_mem inCells))

end Grid

theorem Chart.size_view_ofTokens (grammar : Grammar) (tokens : List Token) :
    (ofTokens grammar tokens).view.size = tokens.length := by
  rw [View.size, view, List.length_map, ofTokens, tokens_fill]

/-- A label has the characters of the names in it, and commas and spaces. -/
theorem Names.mem_toList_label {symbols : Names} {c : Char} (letter : c ∈ symbols.label.toList) :
    c ∈ [',', ' ', 'Ø'] ∨ ∃ symbol ∈ symbols, c ∈ symbol.toList := by
  rw [label] at letter
  split at letter
  · have only : emptyLabel.toList = ['Ø'] := by decide
    rw [only, List.mem_singleton] at letter
    simp [letter]
  · rcases mem_toList_intercalate letter with between | ⟨symbol, member, inSymbol⟩
    · have sign : c = ',' ∨ c = ' ' := by simpa using between
      rcases sign with rfl | rfl <;> simp
    · exact Or.inr ⟨symbol, member, inSymbol⟩

namespace Checker

variable {definition : String} {checker : Checker}

/-- Nothing that a checker's grids show is broken into lines. -/
theorem linefeed_not_mem_of_listed (loaded : ofDefinition definition = .ok checker)
    (sentence : String) :
    let view := (Chart.ofTokens checker.grammar (checker.tokenize sentence)).view
    ∀ text ∈ view.tokens ++ view.cells.map (·.label), '\n' ∉ text.toList := by
  intro view text listed linefeed
  rcases List.mem_append.mp listed with token | label
  · rcases List.mem_map.mp token with ⟨token, member, rfl⟩
    rw [Chart.ofTokens, Chart.tokens_fill] at member
    have space := Tokenizer.eq_space_of_mem_text member linefeed (by decide)
    contradiction
  · rcases List.mem_map.mp label with ⟨cell, inCells, rfl⟩
    rcases Chart.mem_cells_view.mp inCells with ⟨start, len, fits, rfl⟩
    rcases Names.mem_toList_label linefeed with sign | ⟨symbol, member, inSymbol⟩
    · simp at sign
    · exact not_mem_of_isIdentifier (isIdentifier_of_mem_symbols loaded member) (by decide +kernel)
        inSymbol

/-- **Grids are aligned but for marks.**  The grid of a sentence with `n` tokens has `2 * n + 3`
lines.  They are equally wide just if no token and no label begins with a mark or ends with a sign
that is put before others; and where they are not, a row lacks just the clusters that its texts have
in common with the spaces beside them. -/
theorem grid_is_aligned_but_for_marks (definition sentence : String) (checker : Checker)
    (loaded : ofDefinition definition = .ok checker) (filled : checker.tokenize sentence ≠ []) :
    ∃ analysis lines, checker.check sentence = .ok analysis ∧
      (∀ escapes, partsAt "\n" (Grid.render analysis.view false escapes) = lines ++ [""]) ∧
      lines.length = 2 * (checker.tokenize sentence).length + 3 ∧
      ((∀ one ∈ lines, ∀ other ∈ lines, width one = width other) ↔
        ∀ text ∈ analysis.view.tokens ++ analysis.view.cells.map (·.label),
          ¬ BeginsWithMark text ∧ ¬ EndsInPrepended text) ∧
      ∃ (rule : String) (line : List String → String),
        lines = rule :: (Grid.texts analysis.view).flatMap (fun row => [line row, rule]) ∧
        ∀ row ∈ Grid.texts analysis.view,
          width (line row) + (row.map overlap).sum = width rule := by
  have size_eq := Chart.size_view_ofTokens checker.grammar (checker.tokenize sentence)
  have nonempty : (Chart.ofTokens checker.grammar (checker.tokenize sentence)).view.size ≠ 0 :=
    fun none => filled (List.length_eq_zero_iff.mp (size_eq.symm.trans none))
  have apart := (Grid.forall_texts_iff (by simp)).mpr
    (linefeed_not_mem_of_listed loaded sentence)
  refine ⟨_, Grid.plainLines _, check_of_tokens filled, Grid.partsAt_render nonempty apart, ?_, ?_,
    ?_⟩
  · rw [← size_eq]
    exact Grid.length_plainLines nonempty
  · apply Grid.aligned_iff.trans
    exact Grid.forall_texts_iff (by decide)
  · exact ⟨_, _, rfl, fun row => Grid.width_line_of_mem_texts⟩

/-- One word with an accent that is part of a letter. -/
def hotel : Grammar :=
  Grammar.ofRules "Noun" (Draft.ofAdditions "Noun" [.lexical "Noun" "hotél"]).rules

theorem grid_is_aligned_but_for_marks_of_hotel :
    ∃ checker analysis lines, ofDefinition "Noun -> \"hotél\"" = .ok checker ∧
      checker.tokenize "Hotél." ≠ [] ∧ checker.check "Hotél." = .ok analysis ∧
      partsAt "\n" (Grid.render analysis.view false true) = lines ++ [""] ∧
      lines.length = 5 ∧ ∀ one ∈ lines, ∀ other ∈ lines, width one = width other := by
  have loaded : ofDefinition "Noun -> \"hotél\"" = .ok (ofGrammar hotel) := by decide +kernel
  have filled : (ofGrammar hotel).tokenize "Hotél." ≠ [] := by decide +kernel
  rcases grid_is_aligned_but_for_marks _ "Hotél." _ loaded filled with
    ⟨analysis, lines, checked, drawn, counted, aligned, -⟩
  have single : ((ofGrammar hotel).tokenize "Hotél.").length = 1 := by decide +kernel
  refine ⟨_, analysis, lines, loaded, filled, checked, drawn true, ?_, aligned.mpr ?_⟩
  · rw [counted, single]
  · rw [check_of_tokens filled] at checked
    cases checked
    decide +kernel

/-- One word that is a single letter. -/
def vowel : Grammar :=
  Grammar.ofRules "S" (Draft.ofAdditions "S" [.lexical "S" "a"]).rules

/-- An accent alone is a token as wide as a letter, but it is one cluster with the space in front of
it, so that both lines with it fall short of the rulings. -/
theorem grid_of_accent_is_not_aligned :
    ∃ checker analysis lines, ofDefinition "S -> \"a\"" = .ok checker ∧
      checker.tokenize "\u0301" ≠ [] ∧ checker.check "\u0301" = .ok analysis ∧
      (∀ escapes, partsAt "\n" (Grid.render analysis.view false escapes) = lines ++ [""]) ∧
      lines.map width = [9, 8, 9, 8, 9] ∧
      ¬ ∀ one ∈ lines, ∀ other ∈ lines, width one = width other := by
  have loaded : ofDefinition "S -> \"a\"" = .ok (ofGrammar vowel) := by decide +kernel
  have filled : (ofGrammar vowel).tokenize "\u0301" ≠ [] := by decide +kernel
  have unbroken := (Grid.forall_texts_iff (by simp)).mpr
    (linefeed_not_mem_of_listed loaded "\u0301")
  refine ⟨_, _, Grid.plainLines _, loaded, filled, check_of_tokens filled,
    Grid.partsAt_render (by decide +kernel) unbroken, by decide +kernel, by decide +kernel⟩

end Checker

end Cyk
