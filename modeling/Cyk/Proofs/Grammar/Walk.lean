import Cyk.Proofs.Grammar.Ancestors

/-!
# Walking up unit rules

The ancestors of a symbol, found with a stack of symbols to look at and a set of symbols seen.  The
symbol that the walk begins with is not seen at first, and on a cycle the walk comes by it.  A rule
counts as new until its left side is seen; every round takes a symbol off the stack, and for each
that it puts there it uses up a new rule.  So the walk ends, and what it has seen is all that leads
to the symbol.
-/

namespace Cyk

open Relation UnitRule

/-- The symbols a walk has come by, and those it has yet to look at, the next one first. -/
structure Walk where
  seen : Names
  stack : List String

namespace Walk

/-- The walk that begins with a symbol. -/
def start (symbol : String) : Walk :=
  ⟨∅, [symbol]⟩

/-- Puts a parent on the stack, unless it was seen before. -/
def visit (walk : Walk) (parent : String) : Walk :=
  if parent ∈ walk.seen then walk else ⟨walk.seen.insert parent, parent :: walk.stack⟩

/-- One round: takes a symbol off the stack and visits its parents.  With an empty stack the walk is
over. -/
def step (rules : List UnitRule) (walk : Walk) : Option Walk :=
  match walk.stack with
  | [] => none
  | symbol :: rest => some ((parents rules symbol).foldl visit { walk with stack := rest })

/-- The walk after some more rounds, if it has so many. -/
def after (rules : List UnitRule) : Nat → Walk → Option Walk
  | 0, walk => some walk
  | rounds + 1, walk => (step rules walk).bind (after rules rounds)

variable {rules : List UnitRule} {walk next : Walk} {symbol name : String}

/-! ## What a round does -/

theorem mem_seen_visit {parent : String} :
    name ∈ (walk.visit parent).seen ↔ name = parent ∨ name ∈ walk.seen := by
  unfold visit
  split
  · rename_i known
    exact ⟨Or.inr, fun either => either.elim (fun same => same ▸ known) id⟩
  · exact Names.mem_insert

theorem mem_stack_visit {parent : String} :
    name ∈ (walk.visit parent).stack ↔
      name ∈ walk.stack ∨ name = parent ∧ name ∉ walk.seen := by
  unfold visit
  split
  · rename_i known
    constructor
    · exact Or.inl
    · rintro (waiting | ⟨rfl, new⟩)
      · exact waiting
      · exact absurd known new
  · rename_i new
    rw [List.mem_cons, or_comm]
    exact or_congr_right ⟨fun same => ⟨same, same ▸ new⟩, And.left⟩

theorem mem_seen_foldl_visit {visited : List String} :
    name ∈ (visited.foldl visit walk).seen ↔ name ∈ visited ∨ name ∈ walk.seen := by
  induction visited generalizing walk with
  | nil => simp
  | cons parent rest ih =>
    rw [List.foldl_cons, ih, mem_seen_visit, List.mem_cons, or_assoc, or_left_comm]

theorem mem_stack_foldl_visit {visited : List String} :
    name ∈ (visited.foldl visit walk).stack ↔
      name ∈ walk.stack ∨ name ∈ visited ∧ name ∉ walk.seen := by
  induction visited generalizing walk with
  | nil => simp
  | cons parent rest ih =>
    rw [List.foldl_cons, ih, mem_stack_visit, mem_seen_visit, List.mem_cons]
    by_cases same : name = parent <;> simp [same]

theorem step_eq_some (round : walk.step rules = some next) :
    ∃ symbol rest, walk.stack = symbol :: rest ∧
      next = (parents rules symbol).foldl visit { walk with stack := rest } := by
  unfold step at round
  split at round
  · contradiction
  · rename_i symbol rest stacked
    exact ⟨symbol, rest, stacked, (Option.some.inj round).symm⟩

/-! ## The end of the walk -/

/-- How many rules are new, and how many symbols are waiting. -/
def ahead (rules : List UnitRule) (walk : Walk) : Nat :=
  (rules.filter (·.lhs ∉ walk.seen)).length + walk.stack.length

/-- A parent goes on the stack together with the rules that make it one. -/
theorem ahead_visit_le {parent : String} (leads : Leads rules parent symbol) :
    (walk.visit parent).ahead rules ≤ walk.ahead rules := by
  unfold visit
  split
  · exact Nat.le_refl _
  · rename_i new
    have remaining : rules.filter (·.lhs ∉ walk.seen.insert parent) =
        (rules.filter (·.lhs ∉ walk.seen)).filter (·.lhs ≠ parent) := by
      rw [List.filter_filter]
      refine List.filter_congr fun rule _ => ?_
      simp [not_or]
    have fewer : (rules.filter (·.lhs ∉ walk.seen.insert parent)).length <
        (rules.filter (·.lhs ∉ walk.seen)).length := by
      rw [remaining, List.length_filter_lt_length_iff_exists]
      exact ⟨⟨parent, symbol⟩, List.mem_filter.mpr ⟨leads, by simpa using new⟩, by simp⟩
    simp only [ahead, List.length_cons]
    omega

theorem ahead_foldl_visit_le {visited : List String}
    (lead : ∀ parent ∈ visited, Leads rules parent symbol) :
    (visited.foldl visit walk).ahead rules ≤ walk.ahead rules := by
  induction visited generalizing walk with
  | nil => exact Nat.le_refl _
  | cons parent rest ih =>
    rcases List.forall_mem_cons.mp lead with ⟨here, others⟩
    exact Nat.le_trans (ih others) (ahead_visit_le here)

theorem ahead_step_lt (round : walk.step rules = some next) :
    next.ahead rules < walk.ahead rules := by
  rcases step_eq_some round with ⟨symbol, rest, stacked, rfl⟩
  have visited : ((parents rules symbol).foldl visit { walk with stack := rest }).ahead rules ≤
      ahead rules { walk with stack := rest } :=
    ahead_foldl_visit_le fun _ => mem_parents.mp
  have popped : ahead rules { walk with stack := rest } < walk.ahead rules := by
    simp only [ahead, stacked, List.length_cons]
    omega
  exact Nat.lt_of_le_of_lt visited popped

/-- Every walk comes to an end. -/
theorem exists_after_eq_end (rules : List UnitRule) (walk : Walk) :
    ∃ rounds seen, rounds ≤ walk.ahead rules ∧ after rules rounds walk = some ⟨seen, []⟩ := by
  induction bound : walk.ahead rules using Nat.strongRecOn generalizing walk with
  | ind bound ih =>
    subst bound
    cases round : walk.step rules with
    | none =>
      have finished : walk.stack = [] := by
        cases stacked : walk.stack with
        | nil => rfl
        | cons symbol rest => simp [step, stacked] at round
      refine ⟨0, walk.seen, Nat.zero_le _, ?_⟩
      rw [after, ← finished]
    | some next =>
      have fewer := ahead_step_lt round
      rcases ih _ fewer next rfl with ⟨rounds, seen, few, ended⟩
      exact ⟨rounds + 1, seen, by omega, by rw [after, round, Option.bind_some, ended]⟩

/-! ## What the walk has seen -/

/-- What is true of a walk between its rounds: all that was seen leads to the first symbol, nothing
else than that is waiting, and the parents of what has been looked at were seen. -/
structure Underway (rules : List UnitRule) (symbol : String) (walk : Walk) : Prop where
  leads : ∀ name ∈ walk.seen, TransGen (Leads rules) name symbol
  waiting : ∀ name ∈ walk.stack, name = symbol ∨ name ∈ walk.seen
  looked : ∀ name, name = symbol ∨ name ∈ walk.seen → name ∉ walk.stack →
    ∀ parent, Leads rules parent name → parent ∈ walk.seen

theorem underway_start (rules : List UnitRule) (symbol : String) :
    Underway rules symbol (start symbol) where
  leads name seen := absurd seen (Names.not_mem_empty name)
  waiting name member := Or.inl (List.mem_singleton.mp member)
  looked name known unlooked := by
    rcases known with rfl | seen
    · exact absurd (List.mem_singleton.mpr rfl) unlooked
    · exact absurd seen (Names.not_mem_empty name)

theorem Underway.step (underway : Underway rules symbol walk)
    (round : walk.step rules = some next) : Underway rules symbol next := by
  rcases step_eq_some round with ⟨top, rest, stacked, rfl⟩
  have topKnown : top = symbol ∨ top ∈ walk.seen := underway.waiting top (by simp [stacked])
  constructor
  · intro name member
    rcases mem_seen_foldl_visit.mp member with parent | seen
    · have leads : Leads rules name top := mem_parents.mp parent
      rcases topKnown with rfl | above
      · exact TransGen.single leads
      · exact TransGen.head leads (underway.leads top above)
    · exact underway.leads name seen
  · intro name member
    rw [mem_seen_foldl_visit]
    rcases mem_stack_foldl_visit.mp member with below | ⟨parent, -⟩
    · rcases underway.waiting name (by simp [stacked, below]) with same | seen
      · exact Or.inl same
      · exact Or.inr (Or.inr seen)
    · exact Or.inr (Or.inl parent)
  · intro name known unlooked parent leads
    rw [mem_seen_foldl_visit] at known ⊢
    rw [mem_stack_foldl_visit, not_or, not_and, Classical.not_not] at unlooked
    by_cases here : name = top
    · subst here
      exact Or.inl (mem_parents.mpr leads)
    · have before : name = symbol ∨ name ∈ walk.seen := by
        rcases known with same | parent | seen
        · exact Or.inl same
        · exact Or.inr (unlooked.2 parent)
        · exact Or.inr seen
      have absent : name ∉ walk.stack := by simp [stacked, here, unlooked.1]
      exact Or.inr (underway.looked name before absent parent leads)

theorem Underway.after {rounds : Nat} (underway : Underway rules symbol walk)
    (run : after rules rounds walk = some next) : Underway rules symbol next := by
  induction rounds generalizing walk with
  | zero => exact Option.some.inj run ▸ underway
  | succ rounds ih =>
    rcases Option.bind_eq_some_iff.mp run with ⟨middle, round, rest⟩
    exact ih (underway.step round) rest

/-- When the walk is over, exactly the symbols with a path to the first one have been seen. -/
theorem Underway.mem_seen_iff {seen : Names} (underway : Underway rules symbol ⟨seen, []⟩) :
    name ∈ seen ↔ TransGen (Leads rules) name symbol := by
  constructor
  · exact underway.leads name
  · intro path
    induction path using TransGen.head_induction_on with
    | single leads => exact underway.looked symbol (Or.inl rfl) List.not_mem_nil _ leads
    | @head name next leads _ ih =>
      exact underway.looked next (Or.inr ih) List.not_mem_nil name leads

/-- The walk from a symbol ends, and without the symbol itself it has seen the ancestors of the
symbol. -/
theorem exists_after_start_eq_ancestors (rules : List UnitRule) (symbol : String) :
    ∃ rounds seen, rounds ≤ rules.length + 1 ∧
      after rules rounds (start symbol) = some ⟨seen, []⟩ ∧
      (ancestorIndex rules).get symbol = seen.erase symbol := by
  rcases exists_after_eq_end rules (start symbol) with ⟨rounds, seen, few, ended⟩
  have bound : (start symbol).ahead rules ≤ rules.length + 1 :=
    Nat.add_le_add_right (List.length_filter_le _ _) 1
  refine ⟨rounds, seen, Nat.le_trans few bound, ended, ?_⟩
  ext name
  rw [mem_get_ancestorIndex, Names.mem_erase,
    ((underway_start rules symbol).after ended).mem_seen_iff, and_comm]

end Walk

end Cyk
