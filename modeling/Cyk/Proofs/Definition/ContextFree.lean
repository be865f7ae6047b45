import Cyk.Grammar.Derivation
import Cyk.Proofs.Definition.Productions
import Mathlib.Computability.ContextFreeGrammar

/-!
# Definitions as context-free grammars

A definition can be read as a context-free grammar without any of the tables of this library: each
alternative of each rule is a production.  Rewriting a nonterminal by these productions ends in the
same rows of terminals as deriving them by the rules that the definition gives.
-/

namespace Cyk

/-- A symbol of a definition in a production.  A terminal stands for its normal form. -/
def productionSymbol : Definition.Symbol → Symbol String String
  | .terminal content => .terminal (Text.normalizeTerminal content.text)
  | .nonterminal name => .nonterminal name.text

/-- A production for each alternative of a rule. -/
def Definition.Statement.productions : Definition.Statement → List (ContextFreeRule String String)
  | .start _ => []
  | .rule lhs alternatives => alternatives.map fun symbols =>
      ⟨lhs.text, symbols.map productionSymbol⟩

/-- The context-free grammar that statements spell out, with a symbol to start from. -/
def contextFree (statements : List Definition.Statement) (start : String) :
    ContextFreeGrammar String where
  NT := String
  initial := start
  rules := (statements.flatMap Definition.Statement.productions).toFinset

theorem mem_rules_contextFree {statements : List Definition.Statement} {start : String}
    {production : ContextFreeRule String String} :
    production ∈ (contextFree statements start).rules ↔
      ∃ symbols, Definition.HasAlternative statements production.input symbols ∧
        production.output = symbols.map productionSymbol := by
  change production ∈ (statements.flatMap Definition.Statement.productions).toFinset ↔ _
  rw [List.mem_toFinset, List.mem_flatMap]
  constructor
  · rintro ⟨statement, member, listed⟩
    cases statement with
    | start name => contradiction
    | rule lhs alternatives =>
      rcases List.mem_map.mp listed with ⟨symbols, inAlternatives, rfl⟩
      exact ⟨symbols, ⟨lhs, alternatives, member, rfl, inAlternatives⟩, rfl⟩
  · rintro ⟨symbols, ⟨lhs, alternatives, member, named, inAlternatives⟩, equal⟩
    exact ⟨_, member, List.mem_map.mpr
      ⟨symbols, inAlternatives, ContextFreeRule.ext named equal.symm⟩⟩

/-- One alternative rewrites its left side. -/
theorem derives_alternative {statements : List Definition.Statement} {start lhs : String}
    {symbols : List Definition.Symbol}
    (alternative : Definition.HasAlternative statements lhs symbols) :
    (contextFree statements start).Derives [.nonterminal lhs] (symbols.map productionSymbol) := by
  apply ContextFreeGrammar.Produces.single
  exact ⟨⟨lhs, symbols.map productionSymbol⟩,
    mem_rules_contextFree.mpr ⟨symbols, alternative, rfl⟩, ContextFreeRule.Rewrites.input_output⟩

section Derivations

variable {statements : List Definition.Statement} {start : String} {grammar : Grammar}

/-- A derivation by the rules of the grammar can be replayed by rewriting. -/
theorem contextFree_derives (made : Definition.grammar statements = .ok grammar)
    {symbol : String} {terminals : List String}
    (derivation : Derives grammar.rules symbol terminals) :
    (contextFree statements start).Derives [.nonterminal symbol] (terminals.map .terminal) := by
  induction derivation with
  | lexical rule =>
    rcases (Definition.mem_lexical_of_grammar made).mp rule with ⟨content, member, rfl⟩
    exact derives_alternative member
  | unit rule _ ih =>
    rcases (Definition.mem_unit_of_grammar made).mp rule with ⟨name, member, rfl⟩
    exact (derives_alternative member).trans ih
  | binary rule _ _ ihBefore ihAfter =>
    rcases (Definition.mem_binary_of_grammar made).mp rule with ⟨first, second, member, rfl, rfl⟩
    rw [List.map_append]
    apply (derives_alternative member).trans
    exact (ihBefore.append_right [.nonterminal second.text]).trans (ihAfter.append_left _)

/-- A row of symbols stands for the terminals that its members stand for, one after the other. -/
inductive Expands (rules : Rules) : List (Symbol String String) → List String → Prop where
  | nil : Expands rules [] []
  | terminal {terminal : String} {row : List (Symbol String String)} {terminals : List String}
    (rest : Expands rules row terminals) :
    Expands rules (.terminal terminal :: row) (terminal :: terminals)
  | nonterminal {symbol : String} {row : List (Symbol String String)} {front back : List String}
    (first : Derives rules symbol front) (rest : Expands rules row back) :
    Expands rules (.nonterminal symbol :: row) (front ++ back)

namespace Expands

variable {rules : Rules}

theorem of_terminals (terminals : List String) :
    Expands rules (terminals.map .terminal) terminals := by
  induction terminals with
  | nil => exact nil
  | cons first rest ih => exact terminal ih

theorem append_split {front back : List (Symbol String String)} {terminals : List String}
    (expansion : Expands rules (front ++ back) terminals) :
    ∃ before after, terminals = before ++ after ∧ Expands rules front before ∧
      Expands rules back after := by
  induction front generalizing terminals with
  | nil => exact ⟨[], terminals, rfl, nil, expansion⟩
  | cons symbol front ih =>
    cases expansion with
    | terminal rest =>
      rcases ih rest with ⟨before, after, rfl, inFront, inBack⟩
      exact ⟨_, after, rfl, terminal inFront, inBack⟩
    | nonterminal first rest =>
      rcases ih rest with ⟨before, after, rfl, inFront, inBack⟩
      exact ⟨_, after, (List.append_assoc _ _ _).symm, nonterminal first inFront, inBack⟩

theorem of_singleton {symbol : String} {terminals : List String}
    (expansion : Expands rules [.nonterminal symbol] terminals) :
    Derives rules symbol terminals := by
  cases expansion with
  | nonterminal first rest =>
    cases rest
    rwa [List.append_nil]

/-- The right side of a production stands only for what its left side derives. -/
theorem derives_of_output (made : Definition.grammar statements = .ok grammar)
    {production : ContextFreeRule String String}
    (member : production ∈ (contextFree statements start).rules) {terminals : List String}
    (expansion : Expands grammar.rules production.output terminals) :
    Derives grammar.rules production.input terminals := by
  rcases mem_rules_contextFree.mp member with ⟨symbols, listed, output⟩
  rw [output] at expansion
  rcases Definition.shape_of_alternative made listed with
    ⟨content, rfl⟩ | ⟨child, rfl⟩ | ⟨left, right, rfl⟩
  · cases expansion with
    | terminal rest =>
      cases rest
      exact Derives.lexical ((Definition.mem_lexical_of_grammar made).mpr ⟨content, listed, rfl⟩)
  · have rule := (Definition.mem_unit_of_grammar made).mpr ⟨child, listed, rfl⟩
    exact Derives.unit rule expansion.of_singleton
  · have rule := (Definition.mem_binary_of_grammar made).mpr ⟨left, right, listed, rfl, rfl⟩
    cases expansion with
    | nonterminal first rest => exact Derives.binary rule first rest.of_singleton

/-- Undoing one step of rewriting keeps what a row stands for. -/
theorem of_rewrites (made : Definition.grammar statements = .ok grammar)
    {production : ContextFreeRule String String}
    (member : production ∈ (contextFree statements start).rules)
    {row next : List (Symbol String String)} (step : production.Rewrites row next)
    {terminals : List String} (expansion : Expands grammar.rules next terminals) :
    Expands grammar.rules row terminals := by
  induction step generalizing terminals with
  | head rest =>
    rcases expansion.append_split with ⟨before, after, rfl, inOutput, inRest⟩
    exact nonterminal (derives_of_output made member inOutput) inRest
  | cons symbol _ ih =>
    cases expansion with
    | terminal rest => exact terminal (ih rest)
    | nonterminal first rest => exact nonterminal first (ih rest)

/-- A row stands for every row of terminals that it can be rewritten to. -/
theorem of_derives (made : Definition.grammar statements = .ok grammar)
    {row : List (Symbol String String)} {terminals : List String}
    (rewriting : (contextFree statements start).Derives row (terminals.map .terminal)) :
    Expands grammar.rules row terminals := by
  -- Induction from the front: a row stands for what the row after it stands for.
  induction rewriting using Relation.ReflTransGen.head_induction_on with
  | refl => exact of_terminals terminals
  | head step _ ih =>
    rcases step with ⟨production, member, rewrites⟩
    exact of_rewrites made member rewrites ih

end Expands

/-- Rewriting by the alternatives of a definition and deriving by the rules of its grammar lead from
a nonterminal to the same terminals. -/
theorem contextFree_derives_iff (made : Definition.grammar statements = .ok grammar)
    {symbol : String} {terminals : List String} :
    (contextFree statements start).Derives [.nonterminal symbol] (terminals.map .terminal) ↔
      Derives grammar.rules symbol terminals := by
  constructor
  · intro rewriting
    exact (Expands.of_derives made rewriting).of_singleton
  · exact contextFree_derives made

/-- The language of a definition, read as a context-free grammar, is what the start symbol of its
grammar derives. -/
theorem mem_language_contextFree (made : Definition.grammar statements = .ok grammar)
    {terminals : List String} :
    terminals ∈ (contextFree statements grammar.start).language ↔
      Derives grammar.rules grammar.start terminals := by
  rw [ContextFreeGrammar.mem_language_iff, ← contextFree_derives_iff made]
  rfl

end Derivations

end Cyk
