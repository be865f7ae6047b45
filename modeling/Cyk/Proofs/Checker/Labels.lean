import Cyk.Proofs.Checker.Unknown
import Cyk.Proofs.Definition.Spelling
import Cyk.Proofs.Text.Parts

/-!
# Reading labels back

A name that a definition can give has neither commas nor blanks, so the label of a cell can be taken
apart at its commas and tells which nonterminals are in the cell.  The label of empty cells is such
a name itself: a cell with only the nonterminal of that name has the same label.
-/

namespace Cyk

open Text

/-- A name has only characters that names can have. -/
theorem Text.not_mem_of_isIdentifier {name : List Char} {c : Char}
    (identifier : isIdentifier name = true)
    (other : isIdentifierStart c = false ∧ isIdentifierContinue c = false) : c ∉ name := by
  cases name with
  | nil => contradiction
  | cons first rest =>
    rcases Bool.and_eq_true_iff.mp identifier with ⟨starts, continues⟩
    intro member
    rcases List.mem_cons.mp member with rfl | later
    · exact Bool.eq_false_iff.mp other.1 starts
    · exact Bool.eq_false_iff.mp other.2 (List.all_eq_true.mp continues _ later)

namespace Names

variable {symbols : Names}

/-- A label is taken apart into the names it was made of. -/
theorem partsAt_label (nonempty : symbols ≠ ∅) (apart : ∀ symbol ∈ symbols, ',' ∉ symbol.toList) :
    partsAt ", " symbols.label = symbols.toList := by
  have filled : symbols.toList ≠ [] := fun none =>
    nonempty (isEmpty_iff.mp (List.isEmpty_iff.mpr none))
  have joined : symbols.label = ", ".intercalate symbols.toList :=
    if_neg fun empty => nonempty (isEmpty_iff.mp empty)
  rw [joined]
  exact partsAt_intercalate (c := ',') rfl filled apart

/-- Only the name itself is taken for the label of an empty cell. -/
theorem label_eq_emptyLabel_iff (apart : ∀ symbol ∈ symbols, ',' ∉ symbol.toList) :
    symbols.label = emptyLabel ↔ symbols = ∅ ∨ symbols.toList = [emptyLabel] := by
  constructor
  · intro same
    by_cases nonempty : symbols = ∅
    · exact Or.inl nonempty
    · have parts := partsAt_label nonempty apart
      have single : partsAt ", " (", ".intercalate [emptyLabel]) = [emptyLabel] :=
        partsAt_intercalate (c := ',') rfl (List.cons_ne_nil _ _) (by decide)
      rw [String.intercalate_singleton] at single
      rw [same, single] at parts
      exact Or.inr parts.symm
  · rintro (rfl | only)
    · rfl
    · rw [label, isEmpty, only]
      exact (if_neg Bool.false_ne_true).trans String.intercalate_singleton

end Names

theorem Derives.mem_nonterminals {rules : Rules} {symbol : String} {row : List String}
    (derivation : Derives rules symbol row) : symbol ∈ rules.nonterminals := by
  apply Rules.mem_nonterminals_iff.mpr
  cases derivation with
  | lexical rule => exact Or.inl ⟨_, rule⟩
  | unit rule _ => exact Or.inr (Or.inr ⟨_, rule⟩)
  | binary rule _ _ => exact Or.inr (Or.inl ⟨_, _, rule⟩)

/-- Whatever is in a cell of a filled chart has rules. -/
theorem Chart.mem_nonterminals_of_mem_symbols {grammar : Grammar} {tokens : List Token}
    {start len : Nat} {symbol : String}
    (member : symbol ∈ (ofTokens grammar tokens).symbols start len) :
    symbol ∈ grammar.rules.nonterminals :=
  (mem_symbols_fill.mp member).2.mem_nonterminals

namespace Checker

variable {definition sentence : String} {checker : Checker}

/-- The nonterminals in the cells of a checker's charts are names. -/
theorem isIdentifier_of_mem_symbols (loaded : ofDefinition definition = .ok checker)
    {tokens : List Token} {start len : Nat} {symbol : String}
    (member : symbol ∈ (Chart.ofTokens checker.grammar tokens).symbols start len) :
    isIdentifier symbol.toList = true := by
  rcases exists_statements_of_ofDefinition loaded with ⟨statements, readable, made⟩
  have spelled := Definition.wellSpelled_of_grammar (Definition.wellSpelled_of_read readable) made
  exact Grammar.isIdentifier_of_mem_nonterminals spelled
    (Chart.mem_nonterminals_of_mem_symbols member)

/-- No cell of a checker's charts has a nonterminal with a comma in its name. -/
theorem comma_not_mem_of_mem_symbols (loaded : ofDefinition definition = .ok checker)
    {tokens : List Token} {start len : Nat} {symbol : String}
    (member : symbol ∈ (Chart.ofTokens checker.grammar tokens).symbols start len) :
    ',' ∉ symbol.toList := by
  apply not_mem_of_isIdentifier (isIdentifier_of_mem_symbols loaded member)
  decide +kernel

/-- **Labels can be read back.**  The parts of the label of a cell with nonterminals are just these
nonterminals in ascending order.  The label of an empty cell is that of no other cell, unless a
nonterminal has the same name; and then it is that of the cells with this nonterminal alone. -/
theorem labels_are_read_back (definition sentence : String) (checker : Checker)
    (loaded : ofDefinition definition = .ok checker) (filled : checker.tokenize sentence ≠ []) :
    ∃ chart analysis, checker.chart sentence = .ok chart ∧ checker.check sentence = .ok analysis ∧
      ∀ cell ∈ analysis.view.cells, ∃ symbols, chart.cell cell.start cell.len = some symbols ∧
        (symbols ≠ ∅ → (partsAt ", " cell.label).Pairwise (· < ·) ∧
          ∀ symbol, symbol ∈ partsAt ", " cell.label ↔ symbol ∈ symbols) ∧
        (cell.label = emptyLabel ↔ symbols = ∅ ∨ symbols.toList = [emptyLabel]) ∧
        (emptyLabel ∉ checker.grammar.rules.nonterminals →
          (cell.label = emptyLabel ↔ symbols = ∅)) := by
  refine ⟨_, _, chart_of_tokens filled, check_of_tokens filled, ?_⟩
  intro cell member
  rcases Chart.mem_cells_view.mp member with ⟨start, len, fits, rfl⟩
  have apart : ∀ symbol ∈ (Chart.ofTokens checker.grammar (checker.tokenize sentence)).symbols
      start len, ',' ∉ symbol.toList := fun symbol =>
    comma_not_mem_of_mem_symbols loaded
  have marked := Names.label_eq_emptyLabel_iff apart
  refine ⟨_, Chart.cell_eq_some_symbols fits, ?_, marked, ?_⟩
  · intro nonempty
    have parts := Names.partsAt_label nonempty apart
    constructor
    · exact parts ▸ Names.ascending _
    · intro symbol
      exact iff_of_eq (congrArg (symbol ∈ ·) parts)
  · intro unnamed
    apply marked.trans
    apply or_iff_left
    intro only
    apply unnamed
    apply Chart.mem_nonterminals_of_mem_symbols
    rw [Names.mem_def, only]
    exact List.mem_singleton_self emptyLabel

/-- One word with two categories that are also one inside the other. -/
def orchid : Grammar :=
  Grammar.ofRules "Plant" (Draft.ofAdditions "Plant"
    [.unit "Plant" "Flower", .binary "Plant" "Plant" "Flower", .lexical "Flower" "orchid"]).rules

theorem labels_are_read_back_of_orchid :
    ∃ checker analysis,
      ofDefinition "Plant -> Flower | Plant Flower\nFlower -> \"orchid\"" = .ok checker ∧
      checker.tokenize "orchid orchid" ≠ [] ∧ checker.check "orchid orchid" = .ok analysis ∧
      analysis.view.cells.map (·.label) = ["Flower, Plant", "Flower, Plant", "Plant"] ∧
      emptyLabel ∉ checker.grammar.rules.nonterminals ∧
      ∀ cell ∈ analysis.view.cells, cell.label ≠ emptyLabel →
        (partsAt ", " cell.label).Pairwise (· < ·) := by
  have loaded : ofDefinition "Plant -> Flower | Plant Flower\nFlower -> \"orchid\"" =
      .ok (ofGrammar orchid) := by
    decide +kernel
  have filled : (ofGrammar orchid).tokenize "orchid orchid" ≠ [] := by decide +kernel
  rcases labels_are_read_back _ "orchid orchid" _ loaded filled with
    ⟨chart, analysis, -, checked, described⟩
  refine ⟨_, analysis, loaded, filled, checked, ?_, by decide +kernel, ?_⟩
  · rw [check_of_tokens filled] at checked
    cases checked
    decide +kernel
  · intro cell member visible
    rcases described cell member with ⟨symbols, -, parts, marked, -⟩
    exact (parts fun empty => visible (marked.mpr (Or.inl empty))).1

/-- A nonterminal with the letter that labels empty cells as its name. -/
def lettered : Grammar :=
  Grammar.ofRules emptyLabel (Draft.ofAdditions emptyLabel [.lexical emptyLabel "a"]).rules

/-- The label of empty cells is a letter, and a nonterminal can have it as its name: then a cell
with this nonterminal has the label of the empty cell beside it. -/
theorem cell_of_letter_has_emptyLabel :
    ∃ checker chart analysis, ofDefinition "Ø -> \"a\"" = .ok checker ∧
      checker.chart "a b" = .ok chart ∧ checker.check "a b" = .ok analysis ∧
      (∃ cell ∈ analysis.view.cells, chart.cell cell.start cell.len = some (.ofList ["Ø"]) ∧
        cell.label = emptyLabel) ∧
      ∃ cell ∈ analysis.view.cells, chart.cell cell.start cell.len = some ∅ ∧
        cell.label = emptyLabel := by
  have loaded : ofDefinition "Ø -> \"a\"" = .ok (ofGrammar lettered) := by decide +kernel
  have filled : (ofGrammar lettered).tokenize "a b" ≠ [] := by decide +kernel
  refine ⟨_, _, _, loaded, chart_of_tokens filled, check_of_tokens filled, ?_, ?_⟩
  · exact ⟨⟨1, 1, 1, 1, emptyLabel, true⟩, by decide +kernel, by decide +kernel, rfl⟩
  · exact ⟨⟨2, 2, 2, 1, emptyLabel, false⟩, by decide +kernel, by decide +kernel, rfl⟩

end Checker

end Cyk
