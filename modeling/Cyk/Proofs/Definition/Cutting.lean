import Cyk.Proofs.Definition.Reading

/-!
# Slices are cut out of the text

A reader collects names and terminals letter by letter and counts bytes as it goes.  Whatever stands
between them, blanks, quotes, comments or line ends of one byte or three, the slices of the
statements are parts of the text at the places they tell, one behind the other.
-/

namespace Cyk.Definition

open Text

/-- Slices that are cut out of a text, one behind the other: each has the characters at its place.
The text begins at `offset`. -/
inductive Cut : Nat → List Char → List Slice → Prop
  | nil (offset : Nat) (text : List Char) : Cut offset text []
  | cons {offset : Nat} {before rest : List Char} {slice : Slice} {slices : List Slice}
    (start_eq : slice.span.start = offset + byteLength before)
    (stop_eq : slice.span.stop = slice.span.start + byteLength slice.text.toList)
    (later : Cut slice.span.stop rest slices) :
    Cut offset (before ++ (slice.text.toList ++ rest)) (slice :: slices)

namespace Cut

variable {offset : Nat} {text : List Char} {slices : List Slice}

/-- Text behind the last slice makes no difference. -/
theorem append (cut : Cut offset text slices) (more : List Char) :
    Cut offset (text ++ more) slices := by
  induction cut with
  | nil offset text => exact .nil _ _
  | cons start_eq stop_eq _ ih =>
    rw [List.append_assoc, List.append_assoc]
    exact .cons start_eq stop_eq ih

theorem of_append {others : List Slice} (cut : Cut offset text (slices ++ others)) :
    Cut offset text slices := by
  induction slices generalizing offset text with
  | nil => exact .nil _ _
  | cons slice slices ih =>
    cases cut with
    | cons start_eq stop_eq later => exact .cons start_eq stop_eq (ih later)

/-- One more slice at the end of the text. -/
theorem concat (cut : Cut offset text slices) {slice : Slice}
    (start_eq : slice.span.start = offset + byteLength text)
    (stop_eq : slice.span.stop = slice.span.start + byteLength slice.text.toList) :
    Cut offset (text ++ slice.text.toList) (slices ++ [slice]) := by
  induction cut with
  | nil offset text =>
    rw [← List.append_nil slice.text.toList]
    exact .cons start_eq stop_eq (.nil _ _)
  | @cons offset before rest first slices first_start first_stop _ ih =>
    have behind : slice.span.start = first.span.stop + byteLength rest := by
      rw [start_eq, first_stop, first_start, byteLength_append, byteLength_append, Nat.add_assoc,
        Nat.add_assoc]
    rw [List.append_assoc, List.append_assoc]
    exact .cons first_start first_stop (ih behind)

end Cut

/-! ## Collecting a slice -/

theorem byteLength_concat (text : List Char) (c : Char) :
    byteLength (text ++ [c]) = byteLength text + c.utf8Size := by
  rw [byteLength_append, byteLength_cons, byteLength_nil, Nat.add_zero]

/-- What a reader has behind it: the text so far, the slices that are cut out of it, and one that is
being collected at its end. -/
inductive Collected : List Char → List Slice → Option Slice → Prop
  | idle {text : List Char} {slices : List Slice} (cut : Cut 0 text slices) :
    Collected text slices none
  | growing {before : List Char} {slices : List Slice} {slice : Slice} (cut : Cut 0 before slices)
    (start_eq : slice.span.start = byteLength before)
    (stop_eq : slice.span.stop = slice.span.start + byteLength slice.text.toList) :
    Collected (before ++ slice.text.toList) slices (some slice)

namespace Collected

variable {text : List Char} {slices others : List Slice} {slice : Slice}

theorem skip (collected : Collected text slices none) (c : Char) :
    Collected (text ++ [c]) slices none := by
  cases collected with
  | idle cut => exact .idle (cut.append [c])

theorem begin (collected : Collected text slices none) :
    Collected text slices (some (.startingAt (byteLength text))) := by
  cases collected with
  | idle cut =>
    have nothing : text ++ (Slice.startingAt (byteLength text)).text.toList = text :=
      List.append_nil text
    have growing : Collected (text ++ (Slice.startingAt (byteLength text)).text.toList) slices
        (some (.startingAt (byteLength text))) := .growing cut rfl rfl
    rwa [nothing] at growing

theorem grow (collected : Collected text slices (some slice)) (c : Char) :
    Collected (text ++ [c]) slices (some (slice.push c)) := by
  cases collected with
  | @growing before _ _ cut start_eq stop_eq =>
    have letters : (slice.push c).text.toList = slice.text.toList ++ [c] := String.toList_push c
    rw [List.append_assoc, ← letters]
    refine .growing cut start_eq ?_
    rw [letters, byteLength_append, ← Nat.add_assoc]
    exact congrArg (· + c.utf8Size) stop_eq

/-- A slice is complete. -/
theorem settle {slice? : Option Slice} (collected : Collected text slices slice?) :
    Collected text (slices ++ slice?.toList) none := by
  cases collected with
  | idle cut =>
    rw [Option.toList_none, List.append_nil]
    exact .idle cut
  | growing cut start_eq stop_eq =>
    exact .idle (cut.concat (by rw [start_eq, Nat.zero_add]) stop_eq)

/-- Slices that turn out to be none are given up. -/
theorem drop (collected : Collected text (slices ++ others) none) : Collected text slices none := by
  cases collected with
  | idle cut => exact .idle cut.of_append

end Collected

/-! ## What a place has collected -/

/-- The place of a symbol and what it is made of, without its quotes. -/
def Symbol.slice : Symbol → Slice
  | .terminal content => content
  | .nonterminal name => name

/-- The slices of a statement, in the order of the text. -/
def Statement.slices : Statement → List Slice
  | .start symbol => [symbol]
  | .rule lhs alternatives => lhs :: alternatives.flatten.map Symbol.slice

namespace OpenRule

theorem slices_add (rule : OpenRule) (symbol : Symbol) :
    (rule.add symbol).statement.slices = rule.statement.slices ++ [symbol.slice] := by
  simp [add, statement, Statement.slices]

theorem slices_next (rule : OpenRule) : rule.next.statement.slices = rule.statement.slices := by
  simp [next, statement, Statement.slices]

end OpenRule

namespace Place

/-- The slices of the statement so far that are complete. -/
def settled : Place → List Slice
  | .margin | .indented | .comment | .colon | .leftName _ | .startName _ => []
  | .afterLeftName name | .arrow name | .afterStartName name => [name]
  | .alternative rule | .rightName rule _ | .afterSymbol rule | .terminal rule _ =>
    rule.statement.slices

/-- The slice that is being collected. -/
def growing? : Place → Option Slice
  | .leftName name | .rightName _ name | .startName name | .terminal _ name => some name
  | _ => none

/-- Where the text may end, all slices belong to the statement that would be complete. -/
theorem slices_statement? {place : Place} (ends : place.mayEnd = true) :
    place.statement?.toList.flatMap Statement.slices = place.settled ++ place.growing?.toList := by
  cases place with
  | margin | indented | comment | afterSymbol | startName | afterStartName =>
    simp [statement?, settled, growing?, Statement.slices]
  | rightName rule name =>
    simp [statement?, settled, growing?, OpenRule.slices_add, Symbol.slice]
  | leftName | afterLeftName | arrow | alternative | terminal | colon => contradiction

/-- A reader at a place has collected its slices behind those of earlier statements. -/
def Holds (done : List Slice) (text : List Char) (place : Place) : Prop :=
  Collected text (done ++ place.settled) place.growing?

/-! ## Steps -/

section Steps

variable {done : List Slice} {text : List Char} {c : Char} {following : Place}

theorem holds_of_separated (collected : Collected text done none)
    (step : separated c = some following) :
    following.isBetween = true ∧ Holds done (text ++ [c]) following := by
  have skipped := collected.skip c
  rw [← List.append_nil done] at skipped
  rcases separated_eq_some_iff.mp step with ⟨-, rfl⟩ | ⟨-, rfl⟩
  · exact ⟨rfl, skipped⟩
  · exact ⟨rfl, skipped⟩

theorem holds_of_opening (collected : Collected text done none)
    (step : opening (byteLength text) c = some following) : Holds done (text ++ [c]) following := by
  rw [← List.append_nil done] at collected
  rcases opening_eq_some_iff.mp step with ⟨-, rfl⟩ | ⟨-, rfl⟩ | ⟨-, rfl⟩ | ⟨-, rfl⟩
  · exact collected.skip c
  · exact collected.skip c
  · exact collected.skip c
  · exact collected.begin.grow c

theorem holds_of_afterName {name : Slice} (collected : Collected text (done ++ [name]) none)
    (step : afterName name c = some following) : Holds done (text ++ [c]) following := by
  rcases afterName_eq_some_iff.mp step with ⟨-, rfl⟩ | ⟨-, rfl⟩ | ⟨-, -, rfl⟩
  · exact collected.skip c
  · exact collected.skip c
  · -- The name was the keyword, which is no slice of the statement.
    have dropped := collected.drop.skip c
    rw [← List.append_nil done] at dropped
    exact dropped

theorem holds_of_beginSymbol {rule : OpenRule}
    (collected : Collected text (done ++ rule.statement.slices) none)
    (step : beginSymbol rule (byteLength text) c = some following) :
    following.isBetween = false ∧ Holds done (text ++ [c]) following := by
  rcases beginSymbol_eq_some_iff.mp step with ⟨-, rfl⟩ | ⟨-, rfl⟩
  · rw [← byteLength_concat]
    exact ⟨rfl, (collected.skip c).begin⟩
  · exact ⟨rfl, collected.begin.grow c⟩

/-- The slices of a statement join those that are done if the statement is over. -/
def HoldsAfter (finished done : List Slice) (text : List Char) (place : Place) : Prop :=
  Holds (done ++ if place.isBetween then finished else []) text place

theorem holdsAfter_within {finished : List Slice} (within : following.isBetween = false)
    (holds : Holds done text following) : HoldsAfter finished done text following := by
  rw [HoldsAfter, within, if_neg Bool.false_ne_true, List.append_nil]
  exact holds

theorem holdsAfter_between {finished : List Slice} (between : following.isBetween = true)
    (holds : Holds (done ++ finished) text following) :
    HoldsAfter finished done text following := by
  rw [HoldsAfter, between, if_pos rfl]
  exact holds

theorem holdsAfter_nil (holds : Holds done text following) : HoldsAfter [] done text following := by
  rw [HoldsAfter, ite_self, List.append_nil]
  exact holds

theorem holdsAfter_of_continueRule {rule : OpenRule}
    (collected : Collected text (done ++ rule.statement.slices) none)
    (step : continueRule rule (byteLength text) c = some following) :
    HoldsAfter rule.statement.slices done (text ++ [c]) following := by
  rcases continueRule_eq_some_iff.mp step with ⟨-, rfl⟩ | ⟨-, rfl⟩ | step | step
  · exact holdsAfter_within rfl (collected.skip c)
  · rw [← OpenRule.slices_next] at collected
    exact holdsAfter_within rfl (collected.skip c)
  · rcases holds_of_beginSymbol collected step with ⟨within, holds⟩
    exact holdsAfter_within within holds
  · rcases holds_of_separated collected step with ⟨between, holds⟩
    exact holdsAfter_between between holds

theorem holdsAfter_of_afterStartName {name : Slice}
    (collected : Collected text (done ++ [name]) none)
    (step : next (byteLength text) c (.afterStartName name) = some following) :
    HoldsAfter [name] done (text ++ [c]) following := by
  rcases next_afterStartName_eq_some_iff.mp step with ⟨-, rfl⟩ | step
  · exact holdsAfter_within rfl (collected.skip c)
  · rcases holds_of_separated collected step with ⟨between, holds⟩
    exact holdsAfter_between between holds

/-- A symbol of a right side is complete. -/
theorem collected_add {rule : OpenRule} (symbol : Symbol)
    (collected : Collected text (done ++ rule.statement.slices) (some symbol.slice)) :
    Collected text (done ++ (rule.add symbol).statement.slices) none := by
  rw [OpenRule.slices_add, ← List.append_assoc]
  exact collected.settle

/-- One character: a slice grows, begins or ends, and a statement that ends hands its slices on. -/
theorem Holds.next {place : Place} (holds : Holds done text place)
    (step : place.next (byteLength text) c = some following) :
    HoldsAfter (place.statement?.toList.flatMap Statement.slices) done (text ++ [c]) following := by
  have nothing : done ++ [] = done := List.append_nil done
  cases place with
  | margin =>
    apply holdsAfter_nil
    rcases next_margin_eq_some_iff.mp step with ⟨-, rfl⟩ | step
    · exact holds.skip c
    · exact holds_of_opening (nothing ▸ holds) step
  | indented => exact holdsAfter_nil (holds_of_opening (nothing ▸ holds) step)
  | comment =>
    apply holdsAfter_nil
    rcases next_comment_eq_some_iff.mp step with ⟨-, rfl⟩ | ⟨-, rfl⟩
    · exact holds.skip c
    · exact holds.skip c
  | leftName name =>
    apply holdsAfter_nil
    rcases next_leftName_eq_some_iff.mp step with ⟨-, rfl⟩ | ⟨-, step⟩
    · exact holds.grow c
    · exact holds_of_afterName (nothing ▸ holds.settle) step
  | afterLeftName name => exact holdsAfter_nil (holds_of_afterName holds step)
  | arrow lhs =>
    apply holdsAfter_nil
    rcases next_arrow_eq_some_iff.mp step with ⟨-, rfl⟩
    exact holds.skip c
  | alternative rule =>
    apply holdsAfter_nil
    rcases next_alternative_eq_some_iff.mp step with ⟨-, rfl⟩ | step
    · exact holds.skip c
    · exact (holds_of_beginSymbol holds step).2
  | rightName rule name =>
    rcases next_rightName_eq_some_iff.mp step with ⟨-, rfl⟩ | ⟨-, step⟩
    · exact holdsAfter_within rfl (holds.grow c)
    · have passed := holdsAfter_of_continueRule (collected_add (.nonterminal name) holds) step
      rwa [← List.flatMap_singleton Statement.slices] at passed
  | afterSymbol rule =>
    have passed := holdsAfter_of_continueRule holds step
    rwa [← List.flatMap_singleton Statement.slices] at passed
  | terminal rule content =>
    apply holdsAfter_nil
    rcases next_terminal_eq_some_iff.mp step with ⟨-, -, rfl⟩ | ⟨-, -, rfl⟩
    · exact (collected_add (.terminal content) holds).skip c
    · exact holds.grow c
  | colon =>
    apply holdsAfter_nil
    rcases next_colon_eq_some_iff.mp step with ⟨-, rfl⟩ | ⟨-, rfl⟩
    · exact holds.skip c
    · exact holds.begin.grow c
  | startName name =>
    rcases next_startName_eq_some_iff.mp step with ⟨-, rfl⟩ | ⟨-, step⟩
    · exact holdsAfter_within rfl (holds.grow c)
    · exact holdsAfter_of_afterStartName (nothing ▸ holds.settle) step
  | afterStartName name => exact holdsAfter_of_afterStartName holds step

end Steps

end Place

/-! ## Runs -/

theorem cut_of_readFrom {place : Place} {done : List Slice} {front text : List Char}
    {found : List Statement} (holds : place.Holds done front)
    (run : readFrom place (byteLength front) text = .ok found) :
    Cut 0 (front ++ text) (done ++ found.flatMap Statement.slices) := by
  -- Character by character; what was read moves from `text` to `front`, with what it holds.
  induction text generalizing place done front found with
  | nil =>
    rcases readFrom_nil_eq_ok_iff.mp run with ⟨ends, rfl⟩
    rw [Place.slices_statement? ends, ← List.append_assoc, List.append_nil]
    cases holds.settle with
    | idle cut => exact cut
  | cons c text ih =>
    rcases readFrom_cons_eq_ok_iff.mp run with ⟨following, step, later, rest, rfl⟩
    rw [← byteLength_concat] at rest
    have cut := ih (holds.next step) rest
    rw [List.append_assoc, List.singleton_append, List.append_assoc] at cut
    rw [List.flatMap_append, apply_ite (List.flatMap Statement.slices)]
    exact cut

/-- The slices of the statements that are read are cut out of the definition. -/
theorem cut_of_read {definition : String} {statements : List Statement}
    (readable : read definition = .ok statements) :
    Cut 0 definition.toList (statements.flatMap Statement.slices) := by
  have empty : Place.Holds [] [] .margin := .idle (.nil 0 [])
  exact cut_of_readFrom empty ((read_eq_readFrom definition).symm.trans readable)

end Cyk.Definition
