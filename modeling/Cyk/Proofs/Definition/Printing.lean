import Cyk.Definition.Printer
import Cyk.Proofs.Definition.Spelling
import Mathlib.Data.List.Basic

/-!
# Reading what was printed

The rules of a grammar, added one by one, make the same grammar again: its terminals are in normal
form already, and no rule is there twice.  Printed as lines they have the shape of a definition that
says just these rules, so the definition is read and makes that grammar.
-/

namespace Cyk

/-! ## Adding the rules again -/

theorem Rules.eq_of_parts {rules other : Rules} (lexical : rules.lexical = other.lexical)
    (binary : rules.binary = other.binary) (unit : rules.unit = other.unit) : rules = other := by
  rcases rules with ⟨_, _, _⟩
  rcases other with ⟨_, _, _⟩
  obtain rfl := lexical
  obtain rfl := binary
  obtain rfl := unit
  rfl

namespace Grammar

variable {grammar : Grammar}

theorem filterMap_binary?_additions (grammar : Grammar) :
    grammar.additions.filterMap Addition.binary? = grammar.rules.binary := by
  simp [additions, Function.comp_def, Addition.binary?]

theorem filterMap_unit?_additions (grammar : Grammar) :
    grammar.additions.filterMap Addition.unit? = grammar.rules.unit := by
  simp [additions, Function.comp_def, Addition.unit?]

theorem WellFormed.rules_ofAdditions (wellFormed : grammar.WellFormed) (start : String) :
    (Draft.ofAdditions start grammar.additions).rules = grammar.rules := by
  apply Rules.eq_of_parts
  · apply Index.ext
    intro lhs
    apply Names.ext
    intro terminal
    simp only [Draft.mem_lexical_ofAdditions, lexical_mem_additions]
    -- A terminal is added in normal form once more, which it has already.
    constructor
    · rintro ⟨given, member, rfl⟩
      rwa [(wellFormed.terminals_normal lhs given member).fixed]
    · intro member
      exact ⟨terminal, member, (wellFormed.terminals_normal lhs terminal member).fixed.symm⟩
  · rw [Draft.binary_ofAdditions, filterMap_binary?_additions]
    exact eraseDups_of_nodup wellFormed.binary_nodup
  · rw [Draft.unit_ofAdditions, filterMap_unit?_additions]
    exact eraseDups_of_nodup wellFormed.unit_nodup

/-- The rules of a grammar and its start symbol make this grammar. -/
theorem WellFormed.build_ofAdditions (wellFormed : grammar.WellFormed) :
    (Draft.ofAdditions grammar.start grammar.additions).build = .ok grammar := by
  have rules := wellFormed.rules_ofAdditions grammar.start
  rw [Draft.build_eq_ok_iff, Draft.fault?_eq_none_iff, Draft.start_ofAdditions, rules]
  refine ⟨⟨?_, ?_, wellFormed.start_defined⟩, grammar.eq_ofRules⟩
  · intro lhs empty
    exact (wellFormed.terminals_normal lhs "" empty).nonempty rfl
  · exact Draft.forall_references_iff.mpr ⟨wellFormed.binary_defined, wellFormed.unit_defined⟩

end Grammar

/-! ## Lines -/

/-- The symbol as a definition writes it. -/
def Definition.PlainSymbol.text : Definition.PlainSymbol → String
  | .terminal text => "\"" ++ text ++ "\""
  | .nonterminal name => name

/-- The rule as a definition writes it. -/
def Addition.line (addition : Addition) : String :=
  addition.lhs ++ " -> " ++ Text.joinWords (addition.symbols.map Definition.PlainSymbol.text)

/-- What the line of a rule says. -/
def Addition.plain (addition : Addition) : Definition.PlainStatement :=
  .rule addition.lhs [addition.symbols]

namespace Definition

open Text Shape

@[simp]
theorem line_binary (rule : BinaryRule) :
    (Addition.binary rule.lhs rule.left rule.right).line = rule.text := by
  apply String.toList_inj.mp
  simp [Addition.line, Addition.lhs, Addition.symbols, PlainSymbol.text, BinaryRule.text,
    toList_joinWords_cons_cons]

@[simp]
theorem line_unit (rule : UnitRule) : (Addition.unit rule.lhs rule.child).line = rule.text := by
  simp [Addition.line, Addition.lhs, Addition.symbols, PlainSymbol.text, UnitRule.text]

@[simp]
theorem line_lexical (lhs terminal : String) :
    (Addition.lexical lhs terminal).line = lexicalRule lhs terminal := by
  apply String.toList_inj.mp
  simp [Addition.line, Addition.lhs, Addition.symbols, PlainSymbol.text, lexicalRule]

theorem lines_eq (result : Grammar) :
    lines result = ("start: " ++ result.start) :: result.additions.map Addition.line := by
  simp [lines, Grammar.additions, Function.comp_def]

/-! ## The shape of the lines -/

variable {longest : Bool} {rest : List Char}

theorem stops_of_not_isIdentifierContinue {c : Char} (other : isIdentifierContinue c = false)
    (text : List Char) : ∀ d ∈ (c :: text).head?, isIdentifierContinue d = false := by
  rintro _ ⟨⟩
  exact other

theorem blanks_space (text : List Char) : Blanks (' ' :: text) text :=
  .more (by decide) .none

theorem stops_space (text : List Char) :
    ∀ c ∈ (' ' :: text).head?, isIdentifierContinue c = false :=
  stops_of_not_isIdentifierContinue (of_isInlineBlank (by decide)).2.2.2 text

theorem name_toList {name : String} (identifier : isIdentifier name.toList = true)
    (stops : ∀ c ∈ rest.head?, isIdentifierContinue c = false) :
    Name (name.toList ++ rest) name rest := by
  have named := Name.mk identifier stops
  rwa [String.ofList_toList] at named

theorem oneSymbol_text {symbol : PlainSymbol} (spelled : symbol.WellSpelled)
    (stops : ∀ c ∈ rest.head?, isIdentifierContinue c = false) :
    OneSymbol (symbol.text.toList ++ rest) symbol rest := by
  cases symbol with
  | terminal text =>
    have nonempty : text.toList ≠ [] := fun empty => spelled.1 (String.toList_eq_nil_iff.mp empty)
    have written : OneSymbol ('"' :: (text.toList ++ '"' :: rest))
        (.terminal (String.ofList text.toList)) rest := .terminal nonempty spelled.2
    rw [String.ofList_toList] at written
    simpa [PlainSymbol.text] using written
  | nonterminal name => exact .nonterminal (name_toList spelled stops)

theorem alternative_joinWords {symbol : PlainSymbol} {symbols : List PlainSymbol}
    (spelled : ∀ other ∈ symbol :: symbols, other.WellSpelled)
    (stops : ∀ c ∈ rest.head?, isIdentifierContinue c = false) :
    Alternative ((joinWords ((symbol :: symbols).map PlainSymbol.text)).toList ++ rest)
      (symbol :: symbols) rest := by
  induction symbols generalizing symbol with
  | nil =>
    rw [List.map_singleton, joinWords_singleton]
    exact .one (oneSymbol_text (spelled symbol List.mem_cons_self) stops)
  | cons next symbols ih =>
    rcases List.forall_mem_cons.mp spelled with ⟨here, others⟩
    rw [List.map_cons, List.map_cons, toList_joinWords_cons_cons, List.append_assoc,
      List.cons_append]
    exact .more (oneSymbol_text here (stops_space _)) (blanks_space _) (ih others)

theorem oneStatement_line {added : Addition} (spelled : added.WellSpelled)
    (stops : ∀ c ∈ rest.head?, isIdentifierContinue c = false) :
    OneStatement (added.line.toList ++ rest) added.plain rest := by
  rcases spelled with ⟨identifier, right⟩
  have written : Alternative ((joinWords (added.symbols.map PlainSymbol.text)).toList ++ rest)
      added.symbols rest := by
    cases added with
    | lexical => exact alternative_joinWords right stops
    | binary => exact alternative_joinWords right stops
    | unit => exact alternative_joinWords right stops
  have line : added.line.toList ++ rest = added.lhs.toList ++ ' ' :: '-' :: '>' :: ' ' ::
      ((joinWords (added.symbols.map PlainSymbol.text)).toList ++ rest) := by
    simp [Addition.line]
  rw [line]
  exact .rule (name_toList identifier (stops_space _)) (blanks_space _) (blanks_space _)
    (.one written)

theorem oneStatement_start {start : String} (identifier : isIdentifier start.toList = true)
    (stops : ∀ c ∈ rest.head?, isIdentifierContinue c = false) :
    OneStatement (("start: " ++ start).toList ++ rest) (.start start) rest := by
  have line : ("start: " ++ start).toList ++ rest =
      startKeyword.toList ++ ':' :: ' ' :: (start.toList ++ rest) := by
    simp [startKeyword]
  rw [line]
  exact .start .none (blanks_space _) (name_toList identifier stops)

/-! ## The shape of the whole text -/

/-- The text of lines, each behind a line feed. -/
def continued (others : List String) : List Char :=
  others.flatMap fun line => '\n' :: line.toList

@[simp]
theorem continued_nil : continued [] = [] := rfl

@[simp]
theorem continued_cons (line : String) (others : List String) :
    continued (line :: others) = '\n' :: (line.toList ++ continued others) := rfl

theorem separator_lineFeed (text : List Char) : Separator longest ('\n' :: text) text :=
  .one (.line .none .none (.single (by decide) fun _ pair => absurd pair.1 (by decide)))

theorem stops_continued (stops : ∀ c ∈ rest.head?, isIdentifierContinue c = false)
    (others : List String) :
    ∀ c ∈ (continued others ++ rest).head?, isIdentifierContinue c = false := by
  cases others with
  | nil => exact stops
  | cons line others =>
    exact stops_of_not_isIdentifierContinue (of_isLineEnd (by decide)).2.2.2 _

theorem following_lines {given : List Addition} (spelled : ∀ added ∈ given, added.WellSpelled)
    (ending : Closing longest rest) (stops : ∀ c ∈ rest.head?, isIdentifierContinue c = false) :
    Following longest (continued (given.map Addition.line) ++ rest) (given.map Addition.plain) := by
  induction given with
  | nil => exact .closing ending
  | cons added others ih =>
    rcases List.forall_mem_cons.mp spelled with ⟨here, there⟩
    rw [List.map_cons, continued_cons, List.cons_append, List.append_assoc]
    exact .statement (separator_lineFeed _) .none
      (oneStatement_line here (stops_continued stops _)) .none (ih there)

theorem whole_lines {start : String} {given : List Addition}
    (identifier : isIdentifier start.toList = true)
    (spelled : ∀ added ∈ given, added.WellSpelled) (ending : Closing longest rest)
    (stops : ∀ c ∈ rest.head?, isIdentifierContinue c = false) :
    Whole longest
      (("start: " ++ start).toList ++ (continued (given.map Addition.line) ++ rest))
      (.start start :: given.map Addition.plain) :=
  .statements .none .none (oneStatement_start identifier (stops_continued stops _)) .none
    (following_lines spelled ending stops)

theorem toList_intercalate_lines (line : String) (others : List String) :
    ("\n".intercalate (line :: others)).toList = line.toList ++ continued others := by
  induction others generalizing line with
  | nil => simp
  | cons next others ih =>
    rw [String.intercalate_cons_cons, String.toList_append, ih]
    simp

theorem toList_join_lines (line : String) (others : List String) :
    (String.join ((line :: others).map (· ++ "\n"))).toList =
      line.toList ++ (continued others ++ ['\n']) := by
  induction others generalizing line with
  | nil => simp
  | cons next others ih =>
    rw [List.map_cons, String.join_cons, String.toList_append, ih]
    simp

/-! ## The grammar of the whole text -/

theorem additions_of_plain {statements : List Statement} {given : List Addition}
    (said : statements.map Statement.plain = given.map Addition.plain) :
    declarations statements = [] ∧ additions statements = .ok given := by
  induction given generalizing statements with
  | nil =>
    obtain rfl := List.map_eq_nil_iff.mp said
    exact ⟨rfl, rfl⟩
  | cons added others ih =>
    rcases List.map_eq_cons_iff.mp said with ⟨statement, later, rfl, here, there⟩
    rcases ih there with ⟨undeclared, listed⟩
    cases statement with
    | start symbol => contradiction
    | rule lhs alternatives =>
      rcases PlainStatement.rule.inj here with ⟨same, right⟩
      rcases List.map_eq_singleton_iff.mp right with ⟨symbols, rfl, agree⟩
      have gives := addition_eq_ok_iff_plain.mpr ⟨same.symm, agree.symm⟩
      constructor
      · exact undeclared
      · rw [additions, Outcome.mapM_eq_ok_iff] at listed ⊢
        exact congrArg₂ List.cons gives listed

theorem grammar_of_plain {statements : List Statement} {start : String} {given : List Addition}
    (said : statements.map Statement.plain = .start start :: given.map Addition.plain) :
    grammar statements = (Draft.ofAdditions start given).build := by
  rcases List.map_eq_cons_iff.mp said with ⟨statement, rules, rfl, here, there⟩
  rcases additions_of_plain there with ⟨undeclared, listed⟩
  cases statement with
  | rule lhs alternatives => contradiction
  | start symbol =>
    obtain rfl := PlainStatement.start.inj here
    have declared : declarations (.start symbol :: rules) = [symbol.text] :=
      congrArg (symbol.text :: ·) undeclared
    have chosen : startSymbol (.start symbol :: rules) = .ok symbol.text := by
      rw [startSymbol, declared]
    have given' : additions (.start symbol :: rules) = .ok given := listed
    rw [grammar, chosen, given']
    rfl

/-- A text with the lines of a grammar makes this grammar, if nothing but the end comes after. -/
theorem exists_statements_of_lines {result : Grammar} (wellFormed : result.WellFormed)
    (spelled : ∀ added ∈ result.additions, added.WellSpelled) {definition : String}
    (written : definition.toList = ("start: " ++ result.start).toList ++
      (continued (result.additions.map Addition.line) ++ rest))
    (ending : Closing true rest) (stops : ∀ c ∈ rest.head?, isIdentifierContinue c = false) :
    ∃ statements, read definition = .ok statements ∧ grammar statements = .ok result := by
  have identifier : isIdentifier result.start.toList = true :=
    Grammar.isIdentifier_of_mem_nonterminals spelled wellFormed.start_defined
  have whole := whole_lines identifier spelled ending stops
  rw [← written] at whole
  rcases Reads.whole whole 0 with ⟨statements, run, said⟩
  apply Exists.intro statements
  constructor
  · exact (read_eq_readFrom definition).trans run
  · rw [grammar_of_plain said]
    exact wellFormed.build_ofAdditions

end Definition

end Cyk
