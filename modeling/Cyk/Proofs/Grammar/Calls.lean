import Cyk.Proofs.Grammar.Build

/-!
# Making a draft step by step

A draft is made by calls that add a rule or name another start symbol.  Binary and unit rules are
kept in the order in which they were first added, each of them once, and the nonterminals are the
left sides of what was added.
-/

namespace Cyk

/-- A step in making a draft. -/
inductive Call where
  | add (addition : Addition)
  | start (symbol : String)
deriving DecidableEq, Repr

/-- The rule that a call adds. -/
def Call.addition? : Call → Option Addition
  | .add addition => some addition
  | .start _ => none

/-- The binary rule that an addition gives. -/
def Addition.binary? : Addition → Option BinaryRule
  | .binary lhs left right => some ⟨lhs, left, right⟩
  | _ => none

/-- The unit rule that an addition gives. -/
def Addition.unit? : Addition → Option UnitRule
  | .unit lhs child => some ⟨lhs, child⟩
  | _ => none

/-- The left side of the rule that is added. -/
def Addition.lhs : Addition → String
  | .lexical lhs _ | .binary lhs _ _ | .unit lhs _ => lhs

/-! ## First occurrences -/

section FirstOccurrences

variable {Rule : Type} [DecidableEq Rule]

theorem eraseDups_concat (rules : List Rule) (rule : Rule) :
    (rules ++ [rule]).eraseDups = addOnce rules.eraseDups rule := by
  have single : [rule].eraseDups = [rule] := by simp [List.eraseDups_cons]
  rw [List.eraseDups_append, addOnce]
  by_cases known : rule ∈ rules
  · simp [List.removeAll, known]
  · simp [List.removeAll, known, single]

/-- Adding rules one by one keeps the first occurrence of each. -/
theorem foldl_addOnce_eraseDups (front rules : List Rule) :
    rules.foldl addOnce front.eraseDups = (front ++ rules).eraseDups := by
  induction rules generalizing front with
  | nil => simp
  | cons rule rest ih =>
    rw [List.foldl_cons, ← eraseDups_concat, ih, List.append_assoc, List.singleton_append]

theorem foldl_addOnce (rules : List Rule) : rules.foldl addOnce [] = rules.eraseDups :=
  foldl_addOnce_eraseDups [] rules

theorem nodup_addOnce {rules : List Rule} (distinct : rules.Nodup) (rule : Rule) :
    (addOnce rules rule).Nodup := by
  unfold addOnce
  split
  · exact distinct
  · rename_i unknown
    rw [List.nodup_append]
    refine ⟨distinct, by simp, ?_⟩
    rintro other member _ singleton rfl
    exact unknown (List.mem_singleton.mp singleton ▸ member)

theorem nodup_eraseDups (rules : List Rule) : rules.eraseDups.Nodup := by
  rw [← foldl_addOnce]
  exact List.foldlRecOn rules addOnce List.nodup_nil fun _ distinct rule _ =>
    nodup_addOnce distinct rule

theorem eraseDups_of_nodup {rules : List Rule} (distinct : rules.Nodup) :
    rules.eraseDups = rules := by
  induction rules with
  | nil => rfl
  | cons rule rest ih =>
    rcases List.nodup_cons.mp distinct with ⟨unknown, others⟩
    have kept : rest.filter (fun other => !other == rule) = rest := by
      apply List.filter_eq_self.mpr
      intro other member
      simpa using fun same : other = rule => unknown (same ▸ member)
    rw [List.eraseDups_cons, kept, ih others]

end FirstOccurrences

namespace Draft

/-- The draft after a call. -/
def call (draft : Draft) : Call → Draft
  | .add addition => draft.add addition
  | .start symbol => draft.withStart symbol

/-- The draft after some calls, with a start symbol to begin with. -/
def ofCalls (start : String) (calls : List Call) : Draft :=
  calls.foldl call { start }

theorem rules_add_congr {draft other : Draft} (same : draft.rules = other.rules)
    (addition : Addition) : (draft.add addition).rules = (other.add addition).rules := by
  cases addition <;> simp [add, addLexical, addBinary, addUnit, same]

theorem rules_foldl_call {calls : List Call} {draft other : Draft}
    (same : draft.rules = other.rules) :
    (calls.foldl call draft).rules = ((calls.filterMap Call.addition?).foldl add other).rules := by
  induction calls generalizing draft other with
  | nil => exact same
  | cons step rest ih =>
    cases step with
    | add addition => exact ih (rules_add_congr same addition)
    | start symbol => exact ih same

/-- Naming start symbols does nothing to the rules. -/
theorem rules_ofCalls (start : String) (calls : List Call) :
    (ofCalls start calls).rules = (ofAdditions start (calls.filterMap Call.addition?)).rules :=
  rules_foldl_call rfl

/-- The start symbol to begin with does nothing to the rules either. -/
theorem rules_ofCalls_eq (start symbol : String) (calls : List Call) :
    (ofCalls start calls).rules = (ofAdditions symbol (calls.filterMap Call.addition?)).rules :=
  rules_foldl_call rfl

theorem ofCalls_concat_start (start : String) (calls : List Call) (symbol : String) :
    ofCalls start (calls ++ [.start symbol]) = (ofCalls start calls).withStart symbol := by
  rw [ofCalls, List.foldl_append]
  rfl

/-! ## The order of the rules -/

theorem binary_foldl_add (additions : List Addition) (draft : Draft) :
    (additions.foldl add draft).rules.binary =
      (additions.filterMap Addition.binary?).foldl addOnce draft.rules.binary := by
  induction additions generalizing draft with
  | nil => rfl
  | cons addition rest ih =>
    rw [List.foldl_cons, ih]
    cases addition <;> rfl

theorem unit_foldl_add (additions : List Addition) (draft : Draft) :
    (additions.foldl add draft).rules.unit =
      (additions.filterMap Addition.unit?).foldl addOnce draft.rules.unit := by
  induction additions generalizing draft with
  | nil => rfl
  | cons addition rest ih =>
    rw [List.foldl_cons, ih]
    cases addition <;> rfl

theorem binary_ofAdditions (start : String) (additions : List Addition) :
    (ofAdditions start additions).rules.binary =
      (additions.filterMap Addition.binary?).eraseDups := by
  rw [ofAdditions, binary_foldl_add, foldl_addOnce]

theorem unit_ofAdditions (start : String) (additions : List Addition) :
    (ofAdditions start additions).rules.unit =
      (additions.filterMap Addition.unit?).eraseDups := by
  rw [ofAdditions, unit_foldl_add, foldl_addOnce]

end Draft

/-! ## Left sides -/

theorem Rules.mem_nonterminals_iff {rules : Rules} {symbol : String} :
    symbol ∈ rules.nonterminals ↔
      (∃ terminal, terminal ∈ rules.lexical.get symbol) ∨
        (∃ left right, ⟨symbol, left, right⟩ ∈ rules.binary) ∨
          ∃ child, ⟨symbol, child⟩ ∈ rules.unit := by
  simp only [Rules.nonterminals, Names.mem_ofList, List.mem_append, List.mem_map, Index.mem_keys,
    or_assoc]
  apply or_congr_right
  constructor
  · rintro (⟨⟨_, left, right⟩, member, rfl⟩ | ⟨⟨_, child⟩, member, rfl⟩)
    · exact Or.inl ⟨left, right, member⟩
    · exact Or.inr ⟨child, member⟩
  · rintro (⟨left, right, member⟩ | ⟨child, member⟩)
    · exact Or.inl ⟨_, member, rfl⟩
    · exact Or.inr ⟨_, member, rfl⟩

theorem Draft.mem_nonterminals_ofAdditions {start symbol : String} {additions : List Addition} :
    symbol ∈ (ofAdditions start additions).rules.nonterminals ↔
      ∃ addition ∈ additions, addition.lhs = symbol := by
  simp only [Rules.mem_nonterminals_iff, mem_lexical_ofAdditions, mem_binary_ofAdditions,
    mem_unit_ofAdditions]
  constructor
  · rintro (⟨_, given, member, -⟩ | ⟨left, right, member⟩ | ⟨child, member⟩)
    · exact ⟨_, member, rfl⟩
    · exact ⟨_, member, rfl⟩
    · exact ⟨_, member, rfl⟩
  · rintro ⟨addition, member, rfl⟩
    cases addition with
    | lexical lhs given => exact Or.inl ⟨_, given, member, rfl⟩
    | binary lhs left right => exact Or.inr (Or.inl ⟨left, right, member⟩)
    | unit lhs child => exact Or.inr (Or.inr ⟨child, member⟩)

end Cyk
