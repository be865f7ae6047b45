import Cyk.Grammar.Draft

/-!
# Building a draft

The rules of a draft are the additions made to it, whatever their order and however often they are
repeated.  A draft without faults becomes the grammar of its own start symbol and rules.
-/

namespace Cyk.Draft

theorem build_eq_ok_iff {draft : Draft} {grammar : Grammar} :
    draft.build = .ok grammar ↔
      draft.fault? = none ∧ grammar = Grammar.ofRules draft.start draft.rules := by
  unfold build
  cases draft.fault? with
  | none => simp [eq_comm]
  | some fault => simp

theorem start_of_build {draft : Draft} {grammar : Grammar} (built : draft.build = .ok grammar) :
    grammar.start = draft.start := by
  rcases build_eq_ok_iff.mp built with ⟨-, rfl⟩
  rfl

theorem rules_of_build {draft : Draft} {grammar : Grammar} (built : draft.build = .ok grammar) :
    grammar.rules = draft.rules := by
  rcases build_eq_ok_iff.mp built with ⟨-, rfl⟩
  rfl

/-! ## The rules of some additions -/

@[simp]
theorem start_foldl_add (additions : List Addition) (draft : Draft) :
    (additions.foldl add draft).start = draft.start := by
  induction additions generalizing draft with
  | nil => rfl
  | cons addition rest ih =>
    rw [List.foldl_cons, ih]
    cases addition <;> rfl

theorem mem_lexical_foldl_add {additions : List Addition} {draft : Draft} {lhs terminal : String} :
    terminal ∈ (additions.foldl add draft).rules.lexical.get lhs ↔
      (∃ given, .lexical lhs given ∈ additions ∧ terminal = Text.normalizeTerminal given) ∨
        terminal ∈ draft.rules.lexical.get lhs := by
  induction additions generalizing draft with
  | nil => simp
  | cons addition rest ih =>
    rw [List.foldl_cons, ih]
    cases addition with
    | lexical lhs' given =>
      simp only [add, addLexical, Index.mem_get_add, List.mem_cons, Addition.lexical.injEq]
      grind
    | binary lhs' left right => simp [add, addBinary]
    | unit lhs' child => simp [add, addUnit]

theorem mem_unit_foldl_add {additions : List Addition} {draft : Draft} {lhs child : String} :
    ⟨lhs, child⟩ ∈ (additions.foldl add draft).rules.unit ↔
      .unit lhs child ∈ additions ∨ ⟨lhs, child⟩ ∈ draft.rules.unit := by
  induction additions generalizing draft with
  | nil => simp
  | cons addition rest ih =>
    rw [List.foldl_cons, ih]
    cases addition with
    | lexical lhs' given => simp [add, addLexical]
    | binary lhs' left right => simp [add, addBinary]
    | unit lhs' child' => simp [add, addUnit, or_assoc, or_left_comm, or_comm]

theorem mem_binary_foldl_add {additions : List Addition} {draft : Draft}
    {lhs left right : String} :
    ⟨lhs, left, right⟩ ∈ (additions.foldl add draft).rules.binary ↔
      .binary lhs left right ∈ additions ∨ ⟨lhs, left, right⟩ ∈ draft.rules.binary := by
  induction additions generalizing draft with
  | nil => simp
  | cons addition rest ih =>
    rw [List.foldl_cons, ih]
    cases addition with
    | lexical lhs' given => simp [add, addLexical]
    | binary lhs' left' right' => simp [add, addBinary, or_assoc, or_left_comm, or_comm]
    | unit lhs' child => simp [add, addUnit]

@[simp]
theorem start_ofAdditions (start : String) (additions : List Addition) :
    (ofAdditions start additions).start = start :=
  start_foldl_add additions _

/-- The terminals of a nonterminal are the normal forms of those it was given. -/
theorem mem_lexical_ofAdditions {start : String} {additions : List Addition}
    {lhs terminal : String} :
    terminal ∈ (ofAdditions start additions).rules.lexical.get lhs ↔
      ∃ given, .lexical lhs given ∈ additions ∧ terminal = Text.normalizeTerminal given := by
  rw [ofAdditions, mem_lexical_foldl_add]
  simp

theorem mem_unit_ofAdditions {start : String} {additions : List Addition} {lhs child : String} :
    ⟨lhs, child⟩ ∈ (ofAdditions start additions).rules.unit ↔ .unit lhs child ∈ additions := by
  rw [ofAdditions, mem_unit_foldl_add]
  simp

theorem mem_binary_ofAdditions {start : String} {additions : List Addition}
    {lhs left right : String} :
    ⟨lhs, left, right⟩ ∈ (ofAdditions start additions).rules.binary ↔
      .binary lhs left right ∈ additions := by
  rw [ofAdditions, mem_binary_foldl_add]
  simp

end Cyk.Draft
