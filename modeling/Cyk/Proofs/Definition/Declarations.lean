import Cyk.Definition.Meaning

/-!
# What statements declare and define

The start symbol, the left sides and the alternatives of a definition, said of the statements
themselves; and that the functions which look for them find just these.
-/

namespace Cyk.Definition

/-! ## The start symbol -/

/-- No start symbol is declared. -/
def Undeclared (statements : List Statement) : Prop :=
  ∀ symbol, Statement.start symbol ∉ statements

/-- The start symbol of statements. -/
inductive Starts : List Statement → String → Prop where
  /-- It is the one that is declared. -/
  | declared {before after : List Statement} {symbol : Slice} (noneBefore : Undeclared before)
    (noneAfter : Undeclared after) : Starts (before ++ .start symbol :: after) symbol.text
  /-- Where none is declared, it is the left side of the first rule. -/
  | undeclared {lhs : Slice} {alternatives : List (List Symbol)} {others : List Statement}
    (none : Undeclared others) : Starts (.rule lhs alternatives :: others) lhs.text
  /-- Without declaration and rule it is empty. -/
  | nothing : Starts [] ""

/-- A start symbol is declared, and this one is declared next. -/
inductive DeclaresTwice : List Statement → String → Prop where
  | mk {before between after : List Statement} {first second : Slice}
    (noneBefore : Undeclared before) (noneBetween : Undeclared between) :
    DeclaresTwice (before ++ .start first :: (between ++ .start second :: after)) second.text

variable {statements : List Statement}

theorem declarations_eq_nil_iff : declarations statements = [] ↔ Undeclared statements := by
  rw [declarations, List.filterMap_eq_nil_iff, Undeclared]
  constructor
  · intro none symbol member
    exact absurd (none _ member) (Option.some_ne_none _)
  · intro none statement member
    cases statement with
    | start symbol => exact absurd member (none symbol)
    | rule lhs alternatives => rfl

theorem declarations_eq_cons_iff {name : String} {names : List String} :
    declarations statements = name :: names ↔
      ∃ before symbol after, statements = before ++ .start symbol :: after ∧ Undeclared before ∧
        symbol.text = name ∧ declarations after = names := by
  rw [declarations, List.filterMap_eq_cons_iff]
  constructor
  · rintro ⟨before, statement, after, rfl, none, some, others⟩
    cases statement with
    | rule lhs alternatives => contradiction
    | start symbol =>
      have undeclared := declarations_eq_nil_iff.mp (List.filterMap_eq_nil_iff.mpr none)
      exact ⟨before, symbol, after, rfl, undeclared, Option.some.inj some, others⟩
  · rintro ⟨before, symbol, after, rfl, none, rfl, others⟩
    exact ⟨before, _, after, rfl,
      List.filterMap_eq_nil_iff.mp (declarations_eq_nil_iff.mpr none), rfl, others⟩

theorem startSymbol_eq_ok_iff {start : String} :
    startSymbol statements = .ok start ↔ Starts statements start := by
  constructor
  · intro chosen
    unfold startSymbol at chosen
    split at chosen
    · rename_i none
      have undeclared := declarations_eq_nil_iff.mp none
      obtain rfl := Except.ok.inj chosen
      cases statements with
      | nil => exact .nothing
      | cons statement others =>
        cases statement with
        | start symbol => contradiction
        | rule lhs alternatives =>
          exact .undeclared fun symbol member => undeclared symbol (List.mem_cons_of_mem _ member)
    · rename_i symbol only
      obtain rfl := Except.ok.inj chosen
      rcases declarations_eq_cons_iff.mp only with ⟨before, symbol, after, rfl, none, rfl, others⟩
      exact .declared none (declarations_eq_nil_iff.mp others)
    · contradiction
  · intro starts
    cases starts with
    | @declared before after symbol noneBefore noneAfter =>
      have only := declarations_eq_cons_iff.mpr
        ⟨before, symbol, after, rfl, noneBefore, rfl, declarations_eq_nil_iff.mpr noneAfter⟩
      rw [startSymbol, only]
    | @undeclared lhs alternatives others none =>
      have nothing : declarations others = [] := declarations_eq_nil_iff.mpr none
      have nothing : declarations (.rule lhs alternatives :: others) = [] := nothing
      rw [startSymbol, nothing]
      rfl
    | nothing => rfl

theorem Starts.unique {start other : String} (starts : Starts statements start)
    (starts' : Starts statements other) : start = other := by
  have same := (startSymbol_eq_ok_iff.mpr starts).symm.trans (startSymbol_eq_ok_iff.mpr starts')
  exact Except.ok.inj same

theorem startSymbol_eq_error_iff {fault : GrammarError} :
    startSymbol statements = .error fault ↔
      ∃ second, DeclaresTwice statements second ∧ fault = .duplicateStart second := by
  constructor
  · intro failed
    unfold startSymbol at failed
    split at failed
    · contradiction
    · contradiction
    · rename_i first second others declared
      rcases declarations_eq_cons_iff.mp declared with ⟨before, first, rest, rfl, none, -, later⟩
      rcases declarations_eq_cons_iff.mp later with ⟨between, next, after, rfl, none', rfl, -⟩
      exact ⟨next.text, .mk none none', (Except.error.inj failed).symm⟩
  · rintro ⟨second, twice, rfl⟩
    cases twice with
    | @mk before between after first next noneBefore noneBetween =>
      have later := declarations_eq_cons_iff.mpr
        ⟨between, next, after, rfl, noneBetween, rfl, rfl⟩
      have declared := declarations_eq_cons_iff.mpr
        ⟨before, first, _, rfl, noneBefore, rfl, later⟩
      rw [startSymbol, declared]

/-- A start symbol is found unless two are declared. -/
theorem exists_starts_iff :
    (∃ start, Starts statements start) ↔ ∀ second, ¬ DeclaresTwice statements second := by
  simp only [← startSymbol_eq_ok_iff]
  cases chosen : startSymbol statements with
  | ok start =>
    constructor
    · intro _ second twice
      have failed := startSymbol_eq_error_iff.mpr ⟨second, twice, rfl⟩
      rw [chosen] at failed
      contradiction
    · exact fun _ => ⟨start, rfl⟩
  | error fault =>
    rcases startSymbol_eq_error_iff.mp chosen with ⟨second, twice, -⟩
    constructor
    · rintro ⟨start, impossible⟩
      contradiction
    · exact fun once => absurd twice (once second)

/-! ## Rules -/

/-- A left side of a rule. -/
def IsLeftSide (statements : List Statement) (symbol : String) : Prop :=
  ∃ lhs alternatives, Statement.rule lhs alternatives ∈ statements ∧ lhs.text = symbol

/-- An alternative of a rule with this left side. -/
def HasAlternative (statements : List Statement) (symbol : String) (symbols : List Symbol) : Prop :=
  ∃ lhs alternatives, Statement.rule lhs alternatives ∈ statements ∧ lhs.text = symbol ∧
    symbols ∈ alternatives

theorem mem_productions_iff {symbol : String} {symbols : List Symbol} :
    (symbol, symbols) ∈ productions statements ↔ HasAlternative statements symbol symbols := by
  rw [productions, List.mem_flatMap]
  constructor
  · rintro ⟨statement, member, listed⟩
    cases statement with
    | start name => contradiction
    | rule lhs alternatives =>
      rcases List.mem_map.mp listed with ⟨_, inAlternatives, equal⟩
      rcases Prod.mk.inj equal with ⟨rfl, rfl⟩
      exact ⟨lhs, alternatives, member, rfl, inAlternatives⟩
  · rintro ⟨lhs, alternatives, member, rfl, inAlternatives⟩
    exact ⟨_, member, List.mem_map_of_mem inAlternatives⟩

/-- If every rule has an alternative, the left sides are those of alternatives. -/
theorem exists_alternative_iff
    (filled : ∀ lhs alternatives, Statement.rule lhs alternatives ∈ statements → alternatives ≠ [])
    {symbol : String} :
    (∃ symbols, HasAlternative statements symbol symbols) ↔ IsLeftSide statements symbol := by
  constructor
  · rintro ⟨symbols, lhs, alternatives, member, named, -⟩
    exact ⟨lhs, alternatives, member, named⟩
  · rintro ⟨lhs, alternatives, member, named⟩
    rcases List.exists_mem_of_ne_nil alternatives (filled lhs alternatives member) with
      ⟨symbols, first⟩
    exact ⟨symbols, lhs, alternatives, member, named, first⟩

/-- A list that is put together from parts is divided within the part that an element comes from. -/
theorem exists_part_of_flatMap_eq {α β : Type} {part : α → List β} {list : List α} {element : β}
    {front back : List β} (split : list.flatMap part = front ++ element :: back) :
    ∃ before origin after earlier later, list = before ++ origin :: after ∧
      part origin = earlier ++ element :: later ∧ front = before.flatMap part ++ earlier := by
  induction list generalizing front with
  | nil => simp at split
  | cons head list ih =>
    rw [List.flatMap_cons, List.append_eq_append_iff] at split
    rcases split with ⟨middle, rfl, beyond⟩ | ⟨_ | ⟨first, later⟩, here, rest⟩
    · rcases ih beyond with ⟨before, origin, after, earlier, later, rfl, within, rfl⟩
      exact ⟨head :: before, origin, after, earlier, later, rfl, within,
        (List.append_assoc _ _ _).symm⟩
    · rw [List.append_nil] at here
      rcases @ih [] rest.symm with ⟨before, origin, after, earlier, later, rfl, within, nothing⟩
      refine ⟨head :: before, origin, after, earlier, later, rfl, within, ?_⟩
      rw [List.flatMap_cons, List.append_assoc, ← nothing, here, List.append_nil]
    · rcases List.cons.inj rest with ⟨rfl, -⟩
      exact ⟨[], head, list, front, later, rfl, here, rfl⟩

/-- A row of alternatives is divided within the rule that one of them belongs to. -/
theorem exists_rule_of_productions_eq {front back : List (String × List Symbol)} {symbol : String}
    {symbols : List Symbol} (split : productions statements = front ++ (symbol, symbols) :: back) :
    ∃ before lhs earlier later after,
      statements = before ++ .rule lhs (earlier ++ symbols :: later) :: after ∧
        lhs.text = symbol ∧ front = productions before ++ earlier.map (symbol, ·) := by
  rcases exists_part_of_flatMap_eq split with ⟨before, statement, after, _, _, rfl, within, rfl⟩
  cases statement with
  | start name => exact absurd within.symm (List.append_ne_nil_of_right_ne_nil _ (by simp))
  | rule lhs alternatives =>
    rcases List.map_eq_append_iff.mp within with ⟨earlier, others, rfl, rfl, others_eq⟩
    rcases List.map_eq_cons_iff.mp others_eq with ⟨_, later, rfl, equal, -⟩
    rcases Prod.mk.inj equal with ⟨rfl, rfl⟩
    exact ⟨before, lhs, earlier, later, after, rfl, rfl, rfl⟩

end Cyk.Definition
