import Cyk.Proofs.Definition.Conversion
import Cyk.Proofs.Definition.Language
import Cyk.Proofs.Grammar.Invariant

/-!
# Grammars that can be written down

Names and terminals of a grammar can be any texts, and not all of them can stand in a definition.
Those of a grammar that came from a definition can: its names are names there, and the normal form
of a terminal has no quote and no line end that the terminal did not have.
-/

namespace Cyk

namespace Definition

open Text

/-- A text that stands between quotes. -/
def IsQuotable (text : String) : Prop :=
  text ≠ "" ∧ ∀ c ∈ text.toList, c ≠ '"' ∧ isReturn c = false

/-- A symbol that can be written down. -/
def PlainSymbol.WellSpelled : PlainSymbol → Prop
  | .terminal text => IsQuotable text
  | .nonterminal name => isIdentifier name.toList = true

theorem Symbol.plain_eq_terminal_iff {symbol : Symbol} {text : String} :
    symbol.plain = .terminal text ↔
      ∃ content, symbol = .terminal content ∧ content.text = text := by
  cases symbol with
  | terminal content => simp [plain]
  | nonterminal name => simp [plain]

theorem Symbol.plain_eq_nonterminal_iff {symbol : Symbol} {name : String} :
    symbol.plain = .nonterminal name ↔
      ∃ slice, symbol = .nonterminal slice ∧ slice.text = name := by
  cases symbol with
  | terminal content => simp [plain]
  | nonterminal slice => simp [plain]

/-- A statement that can be written down. -/
def PlainStatement.WellSpelled : PlainStatement → Prop
  | .start symbol => isIdentifier symbol.toList = true
  | .rule lhs alternatives => isIdentifier lhs.toList = true ∧
      ∀ symbols ∈ alternatives, ∀ symbol ∈ symbols, symbol.WellSpelled

/-! ## What is written down -/

namespace Shape

variable {longest : Bool} {text rest : List Char}

theorem Name.isIdentifier {name : String} (named : Name text name rest) :
    Text.isIdentifier name.toList = true := by
  cases named with
  | mk identifier _ =>
    rw [String.toList_ofList]
    exact identifier

theorem OneSymbol.wellSpelled {symbol : PlainSymbol} (written : OneSymbol text symbol rest) :
    symbol.WellSpelled := by
  cases written with
  | nonterminal named => exact named.isIdentifier
  | terminal nonempty within =>
    constructor
    · exact fun empty => nonempty (String.ofList_eq_empty_iff.mp empty)
    · rw [String.toList_ofList]
      exact within

theorem Alternative.wellSpelled {symbols : List PlainSymbol}
    (written : Alternative text symbols rest) : ∀ symbol ∈ symbols, symbol.WellSpelled := by
  induction written with
  | one only => exact List.forall_mem_singleton.mpr only.wellSpelled
  | more first _ _ ih => exact List.forall_mem_cons.mpr ⟨first.wellSpelled, ih⟩

theorem Alternatives.wellSpelled {alternatives : List (List PlainSymbol)}
    (written : Alternatives text alternatives rest) :
    ∀ symbols ∈ alternatives, ∀ symbol ∈ symbols, symbol.WellSpelled := by
  induction written with
  | one only => exact List.forall_mem_singleton.mpr only.wellSpelled
  | more first _ _ _ ih => exact List.forall_mem_cons.mpr ⟨first.wellSpelled, ih⟩

theorem OneStatement.wellSpelled {statement : PlainStatement}
    (written : OneStatement text statement rest) : statement.WellSpelled := by
  cases written with
  | start _ _ named => exact named.isIdentifier
  | rule named _ _ right => exact ⟨named.isIdentifier, right.wellSpelled⟩

theorem Following.wellSpelled {statements : List PlainStatement}
    (written : Following longest text statements) :
    ∀ statement ∈ statements, statement.WellSpelled := by
  induction written with
  | closing _ => exact List.forall_mem_nil _
  | statement _ _ first _ _ ih => exact List.forall_mem_cons.mpr ⟨first.wellSpelled, ih⟩

theorem Whole.wellSpelled {statements : List PlainStatement}
    (written : Whole longest text statements) :
    ∀ statement ∈ statements, statement.WellSpelled := by
  cases written with
  | empty _ _ => exact List.forall_mem_nil _
  | statements _ _ first _ others =>
    exact List.forall_mem_cons.mpr ⟨first.wellSpelled, others.wellSpelled⟩

end Shape

theorem wellSpelled_of_read {definition : String} {statements : List Statement}
    (readable : read definition = .ok statements) :
    ∀ statement ∈ statements, statement.plain.WellSpelled := by
  have written : Shape.Whole true definition.toList (statements.map Statement.plain) :=
    (Completes.of_readFrom ((read_eq_readFrom definition).symm.trans readable)).1
  intro statement member
  exact written.wellSpelled _ (List.mem_map_of_mem member)

/-- A terminal that can be quoted still can in normal form, unless nothing is left of it. -/
theorem IsQuotable.normalizeTerminal {terminal : String} (quotable : IsQuotable terminal)
    (nonempty : Text.normalizeTerminal terminal ≠ "") :
    IsQuotable (Text.normalizeTerminal terminal) := by
  constructor
  · exact nonempty
  · intro c member
    rcases mem_toList_normalizeTerminal member with rfl | inTerminal | ⟨-, -, behind⟩
    · decide
    · exact quotable.2 c inTerminal
    · -- Quotes and line ends come before all small letters.
      constructor
      · rintro rfl
        exact absurd behind (by decide)
      · apply Bool.eq_false_iff.mpr
        intro ends
        rcases List.mem_cons.mp (isReturn_iff.mp ends) with rfl | last
        · exact absurd behind (by decide)
        · obtain rfl := List.mem_singleton.mp last
          exact absurd behind (by decide)

end Definition

/-! ## The rules of a grammar, one by one -/

/-- The right side of the rule that is added. -/
def Addition.symbols : Addition → List Definition.PlainSymbol
  | .lexical _ terminal => [.terminal terminal]
  | .binary _ left right => [.nonterminal left, .nonterminal right]
  | .unit _ child => [.nonterminal child]

/-- A rule that can be written down. -/
def Addition.WellSpelled (addition : Addition) : Prop :=
  Text.isIdentifier addition.lhs.toList = true ∧
    ∀ symbol ∈ addition.symbols, symbol.WellSpelled

namespace Grammar

variable {grammar : Grammar}

/-- All rules of a grammar: the binary ones, the unit ones, and one for each terminal. -/
def additions (grammar : Grammar) : List Addition :=
  grammar.rules.binary.map (fun rule => .binary rule.lhs rule.left rule.right) ++
    grammar.rules.unit.map (fun rule => .unit rule.lhs rule.child) ++
    grammar.rules.lexical.pairs.map fun (lhs, terminal) => .lexical lhs terminal

theorem lexical_mem_additions {lhs terminal : String} :
    .lexical lhs terminal ∈ grammar.additions ↔ terminal ∈ grammar.rules.lexical.get lhs := by
  simp [additions, Index.mem_pairs]

theorem binary_mem_additions {lhs left right : String} :
    .binary lhs left right ∈ grammar.additions ↔ ⟨lhs, left, right⟩ ∈ grammar.rules.binary := by
  simp only [additions, List.mem_append, List.mem_map]
  constructor
  · rintro ((⟨rule, member, equal⟩ | ⟨_, _, equal⟩) | ⟨_, _, equal⟩)
    · rcases Addition.binary.inj equal with ⟨rfl, rfl, rfl⟩
      exact member
    · contradiction
    · contradiction
  · intro member
    exact Or.inl (Or.inl ⟨_, member, rfl⟩)

theorem unit_mem_additions {lhs child : String} :
    .unit lhs child ∈ grammar.additions ↔ ⟨lhs, child⟩ ∈ grammar.rules.unit := by
  simp only [additions, List.mem_append, List.mem_map]
  constructor
  · rintro ((⟨_, _, equal⟩ | ⟨rule, member, equal⟩) | ⟨_, _, equal⟩)
    · contradiction
    · rcases Addition.unit.inj equal with ⟨rfl, rfl⟩
      exact member
    · contradiction
  · intro member
    exact Or.inl (Or.inr ⟨_, member, rfl⟩)

/-- If the rules can be written down, then so can all that they define. -/
theorem isIdentifier_of_mem_nonterminals (spelled : ∀ added ∈ grammar.additions, added.WellSpelled)
    {symbol : String} (defined : symbol ∈ grammar.rules.nonterminals) :
    Text.isIdentifier symbol.toList = true := by
  rcases Rules.mem_nonterminals_iff.mp defined with
    ⟨terminal, rule⟩ | ⟨left, right, rule⟩ | ⟨child, rule⟩
  · exact (spelled _ (lexical_mem_additions.mpr rule)).1
  · exact (spelled _ (binary_mem_additions.mpr rule)).1
  · exact (spelled _ (unit_mem_additions.mpr rule)).1

end Grammar

namespace Definition

variable {statements : List Statement} {result : Grammar}

/-- The rules of a definition are calls, so its grammar is one that calls make. -/
theorem exists_calls_of_grammar (made : grammar statements = .ok result) :
    ∃ start calls, (Draft.ofCalls start calls).Yields result := by
  rcases Outcome.bind_eq_ok_iff.mp made with ⟨start, -, made⟩
  rcases Outcome.bind_eq_ok_iff.mp made with ⟨given, -, built⟩
  have calls : Draft.ofCalls start (given.map .add) = Draft.ofAdditions start given :=
    List.foldl_map
  rw [← calls] at built
  exact ⟨start, given.map .add, .built built⟩

theorem wellFormed_of_grammar (made : grammar statements = .ok result) : result.WellFormed := by
  rcases exists_calls_of_grammar made with ⟨start, calls, yields⟩
  exact Grammar.wellFormed_of_yields yields

theorem wellSpelled_of_hasAlternative
    (spelled : ∀ statement ∈ statements, statement.plain.WellSpelled) {lhs : String}
    {symbols : List Symbol} (alternative : HasAlternative statements lhs symbols) :
    Text.isIdentifier lhs.toList = true ∧ ∀ symbol ∈ symbols, symbol.plain.WellSpelled := by
  rcases alternative with ⟨name, alternatives, member, rfl, inAlternatives⟩
  rcases spelled _ member with ⟨identifier, right⟩
  constructor
  · exact identifier
  · intro symbol inSymbols
    exact right _ (List.mem_map_of_mem inAlternatives) _ (List.mem_map_of_mem inSymbols)

/-- An alternative gives the rule with its left side and its symbols, if there is one. -/
theorem addition_eq_ok_iff_plain {lhs : String} {symbols : List Symbol} {added : Addition} :
    addition lhs symbols = .ok added ↔
      added.lhs = lhs ∧ added.symbols = symbols.map Symbol.plain := by
  rw [addition_eq_ok_iff]
  constructor
  · rintro (⟨content, rfl, rfl⟩ | ⟨child, rfl, rfl⟩ | ⟨left, right, rfl, rfl⟩)
    · exact ⟨rfl, rfl⟩
    · exact ⟨rfl, rfl⟩
    · exact ⟨rfl, rfl⟩
  · rintro ⟨rfl, agree⟩
    cases added with
    | lexical lhs terminal =>
      rcases List.map_eq_singleton_iff.mp agree.symm with ⟨_, rfl, only⟩
      rcases Symbol.plain_eq_terminal_iff.mp only with ⟨content, rfl, rfl⟩
      exact Or.inl ⟨content, rfl, rfl⟩
    | binary lhs left right =>
      rcases List.map_eq_cons_iff.mp agree.symm with ⟨_, _, rfl, first, others⟩
      rcases List.map_eq_singleton_iff.mp others with ⟨_, rfl, second⟩
      rcases Symbol.plain_eq_nonterminal_iff.mp first with ⟨name, rfl, rfl⟩
      rcases Symbol.plain_eq_nonterminal_iff.mp second with ⟨name', rfl, rfl⟩
      exact Or.inr (Or.inr ⟨name, name', rfl, rfl⟩)
    | unit lhs child =>
      rcases List.map_eq_singleton_iff.mp agree.symm with ⟨_, rfl, only⟩
      rcases Symbol.plain_eq_nonterminal_iff.mp only with ⟨name, rfl, rfl⟩
      exact Or.inr (Or.inl ⟨name, rfl, rfl⟩)

theorem wellSpelled_of_additions {given : List Addition}
    (spelled : ∀ statement ∈ statements, statement.plain.WellSpelled)
    (listed : additions statements = .ok given) : ∀ added ∈ given, added.WellSpelled := by
  intro added member
  rcases (mem_additions listed).mp member with ⟨lhs, symbols, alternative, gives⟩
  rcases wellSpelled_of_hasAlternative spelled alternative with ⟨identifier, right⟩
  rcases addition_eq_ok_iff_plain.mp gives with ⟨rfl, agree⟩
  constructor
  · exact identifier
  · rw [agree]
    exact List.forall_mem_map.mpr right

/-- The rules of a grammar can be written down if the statements it was made from could. -/
theorem wellSpelled_of_grammar (spelled : ∀ statement ∈ statements, statement.plain.WellSpelled)
    (made : grammar statements = .ok result) :
    ∀ added ∈ result.additions, added.WellSpelled := by
  rcases grammar_eq_ok made with ⟨given, listed, -, rules⟩
  have spelled := wellSpelled_of_additions spelled listed
  intro added member
  cases added with
  | lexical lhs terminal =>
    have inRules := Grammar.lexical_mem_additions.mp member
    have nonempty := ((wellFormed_of_grammar made).terminals_normal lhs terminal inRules).nonempty
    rw [rules] at inRules
    rcases Draft.mem_lexical_ofAdditions.mp inRules with ⟨content, inGiven, rfl⟩
    rcases spelled _ inGiven with ⟨identifier, right⟩
    have quotable : IsQuotable content := right (.terminal content) List.mem_cons_self
    exact ⟨identifier, List.forall_mem_singleton.mpr (quotable.normalizeTerminal nonempty)⟩
  | binary lhs left right =>
    have inRules := Grammar.binary_mem_additions.mp member
    rw [rules] at inRules
    exact spelled _ (Draft.mem_binary_ofAdditions.mp inRules)
  | unit lhs child =>
    have inRules := Grammar.unit_mem_additions.mp member
    rw [rules] at inRules
    exact spelled _ (Draft.mem_unit_ofAdditions.mp inRules)

end Definition

end Cyk
