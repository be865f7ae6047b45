import Cyk.Proofs.Definition.Declarations
import Cyk.Proofs.Grammar.Build
import Cyk.Proofs.Outcome

/-!
# The rules of a definition

A grammar made from statements has the rules that the alternatives spell, and every alternative has
one of the three shapes that a rule can have.
-/

namespace Cyk.Definition

/-- An alternative that gives a rule is one terminal, one nonterminal or two of them. -/
theorem addition_eq_ok_iff {lhs : String} {symbols : List Symbol} {result : Addition} :
    addition lhs symbols = .ok result ↔
      (∃ content, symbols = [.terminal content] ∧ result = .lexical lhs content.text) ∨
        (∃ child, symbols = [.nonterminal child] ∧ result = .unit lhs child.text) ∨
          ∃ left right, symbols = [.nonterminal left, .nonterminal right] ∧
            result = .binary lhs left.text right.text := by
  match symbols with
  | [] => simp [addition]
  | [.terminal content] => simp [addition, eq_comm]
  | [.nonterminal child] => simp [addition, eq_comm]
  | [.nonterminal left, .nonterminal right] => simp [addition, eq_comm, and_assoc]
  | [.terminal _, _] => simp [addition]
  | [.nonterminal _, .terminal _] => simp [addition]
  | _ :: _ :: _ :: _ => simp [addition]

variable {statements : List Statement}

/-- What a definition's grammar is made from. -/
theorem grammar_eq_ok {result : Grammar} (made : grammar statements = .ok result) :
    ∃ given, additions statements = .ok given ∧
      Starts statements result.start ∧
        result.rules = (Draft.ofAdditions result.start given).rules := by
  rcases Outcome.bind_eq_ok_iff.mp made with ⟨start, chosen, made⟩
  rcases Outcome.bind_eq_ok_iff.mp made with ⟨given, listed, built⟩
  have start_eq : result.start = start := by
    rw [Draft.start_of_build built, Draft.start_ofAdditions]
  apply Exists.intro given
  constructor
  · exact listed
  constructor
  · rw [start_eq]
    exact startSymbol_eq_ok_iff.mp chosen
  · rw [start_eq]
    exact Draft.rules_of_build built

theorem mem_additions {given : List Addition} (listed : additions statements = .ok given)
    {result : Addition} :
    result ∈ given ↔
      ∃ lhs symbols, HasAlternative statements lhs symbols ∧
        addition lhs symbols = .ok result := by
  simp only [Outcome.mem_of_mapM_eq_ok listed, Prod.exists, mem_productions_iff]

variable {result : Grammar} {lhs : String}

theorem mem_lexical_of_additions {given : List Addition} (listed : additions statements = .ok given)
    {start terminal : String} :
    terminal ∈ (Draft.ofAdditions start given).rules.lexical.get lhs ↔
      ∃ content, HasAlternative statements lhs [.terminal content] ∧
        terminal = Text.normalizeTerminal content.text := by
  simp only [Draft.mem_lexical_ofAdditions, mem_additions listed, addition_eq_ok_iff]
  constructor
  · rintro ⟨_, ⟨_, symbols, member, ⟨content, rfl, equal⟩ | ⟨_, -, equal⟩ | ⟨_, _, -, equal⟩⟩, rfl⟩
    · rcases Addition.lexical.inj equal with ⟨rfl, rfl⟩
      exact ⟨content, member, rfl⟩
    · contradiction
    · contradiction
  · rintro ⟨content, member, rfl⟩
    exact ⟨_, ⟨_, _, member, Or.inl ⟨content, rfl, rfl⟩⟩, rfl⟩

theorem mem_lexical_of_grammar (made : grammar statements = .ok result) {terminal : String} :
    terminal ∈ result.rules.lexical.get lhs ↔
      ∃ content, HasAlternative statements lhs [.terminal content] ∧
        terminal = Text.normalizeTerminal content.text := by
  rcases grammar_eq_ok made with ⟨given, listed, -, rules⟩
  rw [rules, mem_lexical_of_additions listed]

theorem mem_unit_of_grammar (made : grammar statements = .ok result) {child : String} :
    ⟨lhs, child⟩ ∈ result.rules.unit ↔
      ∃ name, HasAlternative statements lhs [.nonterminal name] ∧ child = name.text := by
  rcases grammar_eq_ok made with ⟨given, listed, -, rules⟩
  rw [rules, Draft.mem_unit_ofAdditions, mem_additions listed]
  simp only [addition_eq_ok_iff]
  constructor
  · rintro ⟨_, symbols, member, ⟨_, -, equal⟩ | ⟨name, rfl, equal⟩ | ⟨_, _, -, equal⟩⟩
    · contradiction
    · rcases Addition.unit.inj equal with ⟨rfl, rfl⟩
      exact ⟨name, member, rfl⟩
    · contradiction
  · rintro ⟨name, member, rfl⟩
    exact ⟨_, _, member, Or.inr (Or.inl ⟨name, rfl, rfl⟩)⟩

theorem mem_binary_of_grammar (made : grammar statements = .ok result) {left right : String} :
    ⟨lhs, left, right⟩ ∈ result.rules.binary ↔
      ∃ first second, HasAlternative statements lhs [.nonterminal first, .nonterminal second] ∧
        left = first.text ∧ right = second.text := by
  rcases grammar_eq_ok made with ⟨given, listed, -, rules⟩
  rw [rules, Draft.mem_binary_ofAdditions, mem_additions listed]
  simp only [addition_eq_ok_iff]
  constructor
  · rintro ⟨_, symbols, member, ⟨_, -, equal⟩ | ⟨_, -, equal⟩ | ⟨first, second, rfl, equal⟩⟩
    · contradiction
    · contradiction
    · rcases Addition.binary.inj equal with ⟨rfl, rfl, rfl⟩
      exact ⟨first, second, member, rfl, rfl⟩
  · rintro ⟨first, second, member, rfl, rfl⟩
    exact ⟨_, _, member, Or.inr (Or.inr ⟨first, second, rfl, rfl⟩)⟩

/-- In statements that make a grammar, every alternative has the shape of a rule. -/
theorem shape_of_alternative (made : grammar statements = .ok result) {symbols : List Symbol}
    (listed : HasAlternative statements lhs symbols) :
    (∃ content, symbols = [.terminal content]) ∨ (∃ child, symbols = [.nonterminal child]) ∨
      ∃ left right, symbols = [.nonterminal left, .nonterminal right] := by
  rcases grammar_eq_ok made with ⟨given, added, -⟩
  rcases Outcome.exists_of_mapM_eq_ok added (mem_productions_iff.mpr listed) with ⟨rule, added⟩
  rcases addition_eq_ok_iff.mp added with
    ⟨content, shape, -⟩ | ⟨child, shape, -⟩ | ⟨left, right, shape, -⟩
  · exact Or.inl ⟨content, shape⟩
  · exact Or.inr (Or.inl ⟨child, shape⟩)
  · exact Or.inr (Or.inr ⟨left, right, shape⟩)

end Cyk.Definition
