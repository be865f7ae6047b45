import Cyk.Proofs.Definition.Productions
import Cyk.Proofs.Grammar.Calls
import Cyk.Proofs.Grammar.Faults
import Cyk.Proofs.Text.Terminals

/-!
# From statements to a grammar

Statements either have a fault or make a grammar.  The faults are described by the statements alone,
each with the faults that go before it; of several, the first one is reported, and without any the
grammar has the rules that the statements spell.
-/

namespace Cyk.Definition

open Text

variable {statements : List Statement}

/-! ## What statements spell -/

/-- One terminal, one nonterminal, or two nonterminals. -/
def NormalForm (symbols : List Symbol) : Prop :=
  (∃ content, symbols = [.terminal content]) ∨ (∃ child, symbols = [.nonterminal child]) ∨
    ∃ left right, symbols = [.nonterminal left, .nonterminal right]

/-- Some terminal of a left side consists of blanks. -/
def HasBlankTerminal (statements : List Statement) (lhs : String) : Prop :=
  ∃ content, HasAlternative statements lhs [.terminal content] ∧
    ∀ c ∈ content.text.toList, isBlank c = true

/-- What the alternatives of a statement spell, in order. -/
def Statement.spelled {α : Type} (rule? : String → List Symbol → Option α) : Statement → List α
  | .start _ => []
  | .rule lhs alternatives => alternatives.filterMap (rule? lhs.text)

/-- The binary rule that an alternative spells. -/
def binaryRule? (lhs : String) : List Symbol → Option BinaryRule
  | [.nonterminal left, .nonterminal right] => some ⟨lhs, left.text, right.text⟩
  | _ => none

/-- The unit rule that an alternative spells. -/
def unitRule? (lhs : String) : List Symbol → Option UnitRule
  | [.nonterminal child] => some ⟨lhs, child.text⟩
  | _ => none

/-- The binary rules of statements, in the order of their first occurrences. -/
def binaryRules (statements : List Statement) : List BinaryRule :=
  (statements.flatMap (Statement.spelled binaryRule?)).eraseDups

/-- The unit rules of statements, in the order of their first occurrences. -/
def unitRules (statements : List Statement) : List UnitRule :=
  (statements.flatMap (Statement.spelled unitRule?)).eraseDups

/-- Every nonterminal on a right side, with the text of its rule: binary rules first, and the left
one of a pair before the right one. -/
def mentions (statements : List Statement) : List (String × String) :=
  (binaryRules statements).flatMap
      (fun ⟨lhs, left, right⟩ =>
        [(left, lhs ++ " -> " ++ left ++ " " ++ right),
          (right, lhs ++ " -> " ++ left ++ " " ++ right)]) ++
    (unitRules statements).map fun ⟨lhs, child⟩ => (child, lhs ++ " -> " ++ child)

/-- At most one start symbol is declared, and every alternative is in normal form. -/
structure Shaped (statements : List Statement) : Prop where
  declared_once : ∀ second, ¬ DeclaresTwice statements second
  normalForm : ∀ lhs symbols, HasAlternative statements lhs symbols → NormalForm symbols

/-- What is wrong with statements, where nothing is wrong that would have been noticed before. -/
inductive Fault (statements : List Statement) : GrammarError → Prop
  /-- Of two declarations or more, the second is reported. -/
  | duplicateStart {second : String} (twice : DeclaresTwice statements second) :
    Fault statements (.duplicateStart second)
  /-- The first alternative that is not in normal form. -/
  | notNormalForm {before after : List Statement} {lhs : Slice} {symbols : List Symbol}
    {earlier later : List (List Symbol)}
    (declared_once : ∀ second, ¬ DeclaresTwice statements second)
    (split : statements = before ++ .rule lhs (earlier ++ symbols :: later) :: after)
    (normalBefore : ∀ other row, HasAlternative before other row → NormalForm row)
    (normalEarlier : ∀ row ∈ earlier, NormalForm row) (broken : ¬ NormalForm symbols) :
    Fault statements (.notNormalForm lhs.text (joinWords (symbols.map Symbol.text)))
  /-- The smallest left side with a terminal of blanks. -/
  | emptyTerminal {lhs : String} (shaped : Shaped statements)
    (blank : HasBlankTerminal statements lhs)
    (least : ∀ other, HasBlankTerminal statements other → lhs ≤ other) :
    Fault statements (.emptyTerminal lhs)
  /-- The first nonterminal of a right side that is no left side. -/
  | undefinedNonterminal {before after : List (String × String)} {symbol rule : String}
    (shaped : Shaped statements) (filled : ∀ lhs, ¬ HasBlankTerminal statements lhs)
    (split : mentions statements = before ++ (symbol, rule) :: after)
    (earlier : ∀ mention ∈ before, IsLeftSide statements mention.1)
    (missing : ¬ IsLeftSide statements symbol) :
    Fault statements (.undefinedNonterminal symbol rule)
  /-- The start symbol is no left side. -/
  | undefinedStart {start : String} (shaped : Shaped statements)
    (filled : ∀ lhs, ¬ HasBlankTerminal statements lhs)
    (closed : ∀ mention ∈ mentions statements, IsLeftSide statements mention.1)
    (starts : Starts statements start) (missing : ¬ IsLeftSide statements start) :
    Fault statements (.undefinedStart start)

/-- A grammar has the start symbol and exactly the rules of some statements. -/
structure Spells (statements : List Statement) (result : Grammar) : Prop where
  start : Starts statements result.start
  lexical : ∀ lhs terminal, terminal ∈ result.rules.lexical.get lhs ↔
    ∃ content, HasAlternative statements lhs [.terminal content] ∧
      terminal = normalizeTerminal content.text
  binary : result.rules.binary = binaryRules statements
  unit : result.rules.unit = unitRules statements

/-! ## The alternatives -/

theorem exists_addition_iff {lhs : String} {symbols : List Symbol} :
    (∃ result, addition lhs symbols = .ok result) ↔ NormalForm symbols := by
  simp only [addition_eq_ok_iff, NormalForm]
  constructor
  · rintro ⟨_, ⟨content, shape, -⟩ | ⟨child, shape, -⟩ | ⟨left, right, shape, -⟩⟩
    · exact Or.inl ⟨content, shape⟩
    · exact Or.inr (Or.inl ⟨child, shape⟩)
    · exact Or.inr (Or.inr ⟨left, right, shape⟩)
  · rintro (⟨content, shape⟩ | ⟨child, shape⟩ | ⟨left, right, shape⟩)
    · exact ⟨_, Or.inl ⟨content, shape, rfl⟩⟩
    · exact ⟨_, Or.inr (Or.inl ⟨child, shape, rfl⟩)⟩
    · exact ⟨_, Or.inr (Or.inr ⟨left, right, shape, rfl⟩)⟩

theorem addition_eq_error_iff {lhs : String} {symbols : List Symbol} {fault : GrammarError} :
    addition lhs symbols = .error fault ↔
      ¬ NormalForm symbols ∧
        fault = .notNormalForm lhs (joinWords (symbols.map Symbol.text)) := by
  rw [← @exists_addition_iff lhs]
  unfold addition
  split
  · simp
  · simp
  · simp
  · simp [eq_comm]

/-- The first alternative that gives no rule is reported. -/
theorem additions_eq_error_iff {fault : GrammarError} :
    additions statements = .error fault ↔
      ∃ before lhs earlier symbols later after,
        statements = before ++ .rule lhs (earlier ++ symbols :: later) :: after ∧
          (∀ other row, HasAlternative before other row → NormalForm row) ∧
            (∀ row ∈ earlier, NormalForm row) ∧ ¬ NormalForm symbols ∧
              fault = .notNormalForm lhs.text (joinWords (symbols.map Symbol.text)) := by
  simp only [additions, Outcome.mapM_eq_error_iff, exists_addition_iff, addition_eq_error_iff,
    Prod.exists]
  constructor
  · rintro ⟨front, _, symbols, back, split, normal, broken, rfl⟩
    rcases exists_rule_of_productions_eq split with
      ⟨before, lhs, earlier, later, after, rfl, rfl, rfl⟩
    refine ⟨before, lhs, earlier, symbols, later, after, rfl, ?_, ?_, broken, rfl⟩
    · intro other row listed
      exact normal (other, row) (List.mem_append_left _ (mem_productions_iff.mpr listed))
    · intro row member
      exact normal (lhs.text, row) (List.mem_append_right _ (List.mem_map_of_mem member))
  · rintro ⟨before, lhs, earlier, symbols, later, after, rfl, normalBefore, normalEarlier, broken,
      rfl⟩
    refine ⟨productions before ++ earlier.map (lhs.text, ·), lhs.text, symbols,
      later.map (lhs.text, ·) ++ productions after, ?_, ?_, broken, rfl⟩
    · simp [productions]
    · intro production member
      rcases List.mem_append.mp member with listed | listed
      · exact normalBefore production.1 production.2 (mem_productions_iff.mp listed)
      · rcases List.mem_map.mp listed with ⟨row, inEarlier, rfl⟩
        exact normalEarlier row inEarlier

theorem exists_additions_iff :
    (∃ given, additions statements = .ok given) ↔
      ∀ lhs symbols, HasAlternative statements lhs symbols → NormalForm symbols := by
  constructor
  · rintro ⟨given, added⟩ lhs symbols listed
    exact exists_addition_iff.mp
      (Outcome.exists_of_mapM_eq_ok added (mem_productions_iff.mpr listed))
  · intro normal
    cases added : additions statements with
    | ok given => exact ⟨given, rfl⟩
    | error fault =>
      rcases additions_eq_error_iff.mp added with
        ⟨before, lhs, earlier, symbols, later, after, rfl, -, -, broken, -⟩
      have inRow : symbols ∈ earlier ++ symbols :: later :=
        List.mem_append_right _ List.mem_cons_self
      have alternative := normal lhs.text symbols
        ⟨lhs, _, List.mem_append_right _ List.mem_cons_self, rfl, inRow⟩
      exact absurd alternative broken

/-! ## The rules of the alternatives -/

/-- What the rule of an alternative is, read off the rule and off the alternative. -/
theorem parts_of_addition {lhs : String} {symbols : List Symbol} {result : Addition}
    (added : addition lhs symbols = .ok result) :
    result.lhs = lhs ∧ result.binary? = binaryRule? lhs symbols ∧
      result.unit? = unitRule? lhs symbols := by
  rcases addition_eq_ok_iff.mp added with
    ⟨content, rfl, rfl⟩ | ⟨child, rfl, rfl⟩ | ⟨left, right, rfl, rfl⟩
  · exact ⟨rfl, rfl, rfl⟩
  · exact ⟨rfl, rfl, rfl⟩
  · exact ⟨rfl, rfl, rfl⟩

theorem filterMap_productions {α : Type} (rule? : String → List Symbol → Option α) :
    (productions statements).filterMap (fun (lhs, symbols) => rule? lhs symbols) =
      statements.flatMap (Statement.spelled rule?) := by
  rw [productions, List.filterMap_flatMap]
  congr 1
  funext statement
  cases statement with
  | start symbol => rfl
  | rule lhs alternatives => exact List.filterMap_map

section Given

variable {given : List Addition} (listed : additions statements = .ok given)
include listed

theorem binary_of_additions (start : String) :
    (Draft.ofAdditions start given).rules.binary = binaryRules statements := by
  rw [Draft.binary_ofAdditions, binaryRules, ← filterMap_productions]
  apply congrArg List.eraseDups
  exact Outcome.filterMap_of_mapM_eq_ok listed fun _ _ added => (parts_of_addition added).2.1

theorem unit_of_additions (start : String) :
    (Draft.ofAdditions start given).rules.unit = unitRules statements := by
  rw [Draft.unit_ofAdditions, unitRules, ← filterMap_productions]
  apply congrArg List.eraseDups
  exact Outcome.filterMap_of_mapM_eq_ok listed fun _ _ added => (parts_of_addition added).2.2

theorem references_of_additions (start : String) :
    (Draft.ofAdditions start given).rules.references = mentions statements := by
  rw [Rules.references, binary_of_additions listed, unit_of_additions listed]
  rfl

theorem empty_mem_lexical_of_additions {start lhs : String} :
    "" ∈ (Draft.ofAdditions start given).rules.lexical.get lhs ↔
      HasBlankTerminal statements lhs := by
  simp only [mem_lexical_of_additions listed, HasBlankTerminal, eq_comm (a := ""),
    normalizeTerminal_eq_empty_iff]

theorem mem_nonterminals_of_additions {start symbol : String} :
    symbol ∈ (Draft.ofAdditions start given).rules.nonterminals ↔
      ∃ symbols, HasAlternative statements symbol symbols := by
  rw [Draft.mem_nonterminals_ofAdditions]
  constructor
  · rintro ⟨result, member, rfl⟩
    rcases (mem_additions listed).mp member with ⟨lhs, symbols, alternative, added⟩
    rw [(parts_of_addition added).1]
    exact ⟨symbols, alternative⟩
  · rintro ⟨symbols, alternative⟩
    rcases Outcome.exists_of_mapM_eq_ok listed (mem_productions_iff.mpr alternative) with
      ⟨result, added⟩
    exact ⟨result, (mem_additions listed).mpr ⟨symbol, symbols, alternative, added⟩,
      (parts_of_addition added).1⟩

end Given

/-! ## Success and failure -/

theorem grammar_eq_error_iff {fault : GrammarError} :
    grammar statements = .error fault ↔
      (∃ second, DeclaresTwice statements second ∧ fault = .duplicateStart second) ∨
        ∃ start, Starts statements start ∧
          (additions statements = .error fault ∨
            ∃ given, additions statements = .ok given ∧
              (Draft.ofAdditions start given).fault? = some fault) := by
  simp only [grammar, Outcome.bind_eq_error_iff, startSymbol_eq_error_iff, startSymbol_eq_ok_iff,
    Draft.build_eq_error_iff]

/-- What the checks of a draft find, said of the statements that the draft was made from. -/
theorem fault_of_additions {given : List Addition}
    (listed : additions statements = .ok given)
    (left : ∀ symbol, (∃ symbols, HasAlternative statements symbol symbols) ↔
      IsLeftSide statements symbol) {start : String} {fault : GrammarError} :
    (Draft.ofAdditions start given).fault? = some fault ↔
      (∃ lhs, HasBlankTerminal statements lhs ∧
        (∀ other, HasBlankTerminal statements other → lhs ≤ other) ∧
          fault = .emptyTerminal lhs) ∨
      (∀ lhs, ¬ HasBlankTerminal statements lhs) ∧
        ((∃ before symbol rule after, mentions statements = before ++ (symbol, rule) :: after ∧
          (∀ earlier ∈ before, IsLeftSide statements earlier.1) ∧
            ¬ IsLeftSide statements symbol ∧ fault = .undefinedNonterminal symbol rule) ∨
        (∀ mention ∈ mentions statements, IsLeftSide statements mention.1) ∧
          ¬ IsLeftSide statements start ∧ fault = .undefinedStart start) := by
  simp only [Draft.fault?_eq_some_iff, Draft.emptyTerminal?_eq_some_iff,
    Draft.emptyTerminal?_eq_none_iff, Draft.undefinedNonterminal?_eq_some_iff,
    Draft.undefinedNonterminal?_eq_none_iff, Draft.undefinedStart?_eq_some_iff,
    references_of_additions listed, empty_mem_lexical_of_additions listed,
    mem_nonterminals_of_additions listed, left, Draft.start_ofAdditions]

/-- In statements that give rules, whatever a draft of these rules lacks is reported. -/
theorem grammar_eq_error_of_shaped (shaped : Shaped statements) {fault : GrammarError}
    (found : ∀ start given, Starts statements start → additions statements = .ok given →
      (Draft.ofAdditions start given).fault? = some fault) :
    grammar statements = .error fault := by
  rcases exists_starts_iff.mpr shaped.declared_once with ⟨start, starts⟩
  rcases exists_additions_iff.mpr shaped.normalForm with ⟨given, listed⟩
  apply grammar_eq_error_iff.mpr
  exact Or.inr ⟨start, starts, Or.inr ⟨given, listed, found start given starts listed⟩⟩

/-- A fault is reported just when the statements have it, and none that goes before it. -/
theorem grammar_eq_error_iff_fault
    (filled : ∀ lhs alternatives, Statement.rule lhs alternatives ∈ statements → alternatives ≠ [])
    {fault : GrammarError} : grammar statements = .error fault ↔ Fault statements fault := by
  have left : ∀ symbol, (∃ symbols, HasAlternative statements symbol symbols) ↔
      IsLeftSide statements symbol := fun _ => exists_alternative_iff filled
  constructor
  · intro failed
    rcases grammar_eq_error_iff.mp failed with
      ⟨second, twice, rfl⟩ | ⟨start, starts, unshaped | ⟨given, listed, found⟩⟩
    · exact .duplicateStart twice
    · rcases additions_eq_error_iff.mp unshaped with
        ⟨_, _, _, _, _, _, split, normalBefore, normalEarlier, broken, rfl⟩
      exact .notNormalForm (exists_starts_iff.mp ⟨start, starts⟩) split normalBefore normalEarlier
        broken
    · have shaped : Shaped statements :=
        ⟨exists_starts_iff.mp ⟨start, starts⟩, exists_additions_iff.mp ⟨given, listed⟩⟩
      rcases (fault_of_additions listed left).mp found with
        ⟨lhs, blank, least, rfl⟩ | ⟨visible, ⟨_, _, _, _, split, earlier, missing, rfl⟩ |
          ⟨closed, missing, rfl⟩⟩
      · exact .emptyTerminal shaped blank least
      · exact .undefinedNonterminal shaped visible split earlier missing
      · exact .undefinedStart shaped visible closed starts missing
  · intro faulty
    cases faulty with
    | duplicateStart twice => exact grammar_eq_error_iff.mpr (Or.inl ⟨_, twice, rfl⟩)
    | notNormalForm once split normalBefore normalEarlier broken =>
      rcases exists_starts_iff.mpr once with ⟨start, starts⟩
      have unshaped := additions_eq_error_iff.mpr
        ⟨_, _, _, _, _, _, split, normalBefore, normalEarlier, broken, rfl⟩
      exact grammar_eq_error_iff.mpr (Or.inr ⟨start, starts, Or.inl unshaped⟩)
    | emptyTerminal shaped blank least =>
      apply grammar_eq_error_of_shaped shaped
      intro start given _ listed
      exact (fault_of_additions listed left).mpr (Or.inl ⟨_, blank, least, rfl⟩)
    | undefinedNonterminal shaped visible split earlier missing =>
      apply grammar_eq_error_of_shaped shaped
      intro start given _ listed
      exact (fault_of_additions listed left).mpr
        (Or.inr ⟨visible, Or.inl ⟨_, _, _, _, split, earlier, missing, rfl⟩⟩)
    | undefinedStart shaped visible closed starts missing =>
      apply grammar_eq_error_of_shaped shaped
      intro start given starts' listed
      obtain rfl := starts'.unique starts
      exact (fault_of_additions listed left).mpr (Or.inr ⟨visible, Or.inr ⟨closed, missing, rfl⟩⟩)

theorem spells_of_grammar {result : Grammar} (made : grammar statements = .ok result) :
    Spells statements result := by
  rcases grammar_eq_ok made with ⟨given, listed, start, rules⟩
  constructor
  · exact start
  · intro lhs terminal
    exact mem_lexical_of_grammar made
  · rw [rules, binary_of_additions listed]
  · rw [rules, unit_of_additions listed]

/-- **Statements and their grammar.**  If every rule has an alternative, an error is reported just
when the statements have it and nothing that goes before it is wrong; and statements without any
fault make a grammar with their start symbol and exactly the rules that they spell. -/
theorem grammar_or_first_fault (statements : List Statement)
    (filled : ∀ lhs alternatives,
      Statement.rule lhs alternatives ∈ statements → alternatives ≠ []) :
    (∀ fault, grammar statements = .error fault ↔ Fault statements fault) ∧
      ((∀ fault, ¬ Fault statements fault) →
        ∃ result, grammar statements = .ok result ∧ Spells statements result) := by
  constructor
  · intro fault
    exact grammar_eq_error_iff_fault filled
  · intro faultless
    cases made : grammar statements with
    | error fault => exact absurd ((grammar_eq_error_iff_fault filled).mp made) (faultless fault)
    | ok result => exact ⟨result, rfl, spells_of_grammar made⟩

/-- The statements of `S -> X Y | A`, `B -> " "` and `A -> "a" | "  "`: two left sides with a
terminal of blanks, the greater one first, and two nonterminals without rules. -/
def crossedFaults : List Statement :=
  [.rule ⟨"S", ⟨0, 1⟩⟩
      [[.nonterminal ⟨"X", ⟨5, 6⟩⟩, .nonterminal ⟨"Y", ⟨7, 8⟩⟩], [.nonterminal ⟨"A", ⟨11, 12⟩⟩]],
    .rule ⟨"B", ⟨13, 14⟩⟩ [[.terminal ⟨" ", ⟨19, 20⟩⟩]],
    .rule ⟨"A", ⟨22, 23⟩⟩ [[.terminal ⟨"a", ⟨28, 29⟩⟩], [.terminal ⟨"  ", ⟨34, 36⟩⟩]]]

/-- The statements of `S -> X Y Z`, `start: B`, `B -> " "`, `start: S` and `start: A`: three
declarations, a row of three nonterminals and a terminal of blanks. -/
def declaredThrice : List Statement :=
  [.rule ⟨"S", ⟨0, 1⟩⟩ [[.nonterminal ⟨"X", ⟨5, 6⟩⟩, .nonterminal ⟨"Y", ⟨7, 8⟩⟩,
      .nonterminal ⟨"Z", ⟨9, 10⟩⟩]],
    .start ⟨"B", ⟨19, 20⟩⟩, .rule ⟨"B", ⟨22, 23⟩⟩ [[.terminal ⟨" ", ⟨28, 29⟩⟩]],
    .start ⟨"S", ⟨39, 40⟩⟩, .start ⟨"A", ⟨49, 50⟩⟩]

/-- The statements of `S -> A "x y"`: a nonterminal beside a terminal. -/
def mixedRow : List Statement :=
  [.rule ⟨"S", ⟨0, 1⟩⟩ [[.nonterminal ⟨"A", ⟨5, 6⟩⟩, .terminal ⟨"x y", ⟨8, 11⟩⟩]]]

theorem grammar_or_first_fault_of_crossedFaults :
    (∀ lhs alternatives, Statement.rule lhs alternatives ∈ crossedFaults → alternatives ≠ []) ∧
      grammar crossedFaults = .error (.emptyTerminal "A") ∧
      Fault crossedFaults (.emptyTerminal "A") ∧
      (∀ lhs alternatives, Statement.rule lhs alternatives ∈ declaredThrice → alternatives ≠ []) ∧
      grammar declaredThrice = .error (.duplicateStart "S") ∧
      Fault declaredThrice (.duplicateStart "S") ∧
      (∀ lhs alternatives, Statement.rule lhs alternatives ∈ mixedRow → alternatives ≠ []) ∧
      grammar mixedRow = .error (.notNormalForm "S" "A \"x y\"") ∧
      Fault mixedRow (.notNormalForm "S" "A \"x y\"") := by
  have filled : ∀ lhs alternatives,
      Statement.rule lhs alternatives ∈ crossedFaults → alternatives ≠ [] := by
    rintro lhs _ member rfl
    simp [crossedFaults] at member
  have filledToo : ∀ lhs alternatives,
      Statement.rule lhs alternatives ∈ declaredThrice → alternatives ≠ [] := by
    rintro lhs _ member rfl
    simp [declaredThrice] at member
  have filledRow : ∀ lhs alternatives,
      Statement.rule lhs alternatives ∈ mixedRow → alternatives ≠ [] := by
    rintro lhs _ member rfl
    simp [mixedRow] at member
  have starts : Starts crossedFaults "S" := .undeclared (by simp [Undeclared])
  have blank : grammar crossedFaults = .error (.emptyTerminal "A") :=
    grammar_eq_error_iff.mpr (Or.inr ⟨"S", starts, Or.inr ⟨_, rfl, by decide +kernel⟩⟩)
  have twice : grammar declaredThrice = .error (.duplicateStart "S") := rfl
  have mixed : grammar mixedRow = .error (.notNormalForm "S" "A \"x y\"") := rfl
  exact ⟨filled, blank, ((grammar_or_first_fault crossedFaults filled).1 _).mp blank, filledToo,
    twice, ((grammar_or_first_fault declaredThrice filledToo).1 _).mp twice, filledRow, mixed,
    ((grammar_or_first_fault mixedRow filledRow).1 _).mp mixed⟩

end Cyk.Definition
