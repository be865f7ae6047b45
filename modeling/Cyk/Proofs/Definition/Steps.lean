import Cyk.Proofs.Definition.Characters
import Cyk.Proofs.Definition.Place
import Cyk.Proofs.Definition.Shape
import Cyk.Proofs.Outcome

/-!
# The steps of a reader

All that can happen at each place: which characters may come, and where they lead; and what becomes
of the slices and rules that are collected on the way.
-/

namespace Cyk.Definition

open Text

/-! ## What is collected -/

/-- The slice with the next characters of the text. -/
def Slice.extend (slice : Slice) (letters : List Char) : Slice :=
  letters.foldl Slice.push slice

@[simp]
theorem Slice.extend_text (slice : Slice) (letters : List Char) :
    (slice.extend letters).text = slice.text ++ String.ofList letters := by
  induction letters generalizing slice with
  | nil => simp [Slice.extend]
  | cons c letters ih =>
    have step : slice.extend (c :: letters) = (slice.push c).extend letters := rfl
    have text : (slice.push c).text = slice.text.push c := rfl
    apply String.toList_inj.mp
    rw [step, ih, text]
    simp

/-- The slice that begins at a place and has these characters. -/
theorem Slice.extend_startingAt_text (offset : Nat) (letters : List Char) :
    ((Slice.startingAt offset).extend letters).text = String.ofList letters := by
  rw [Slice.extend_text]
  exact String.empty_append

namespace OpenRule

variable (rule : OpenRule) (symbols : List PlainSymbol) (alternatives : List (List PlainSymbol))

/-- What a rule says when its complete alternatives are followed by these. -/
def completedBy : PlainStatement :=
  .rule rule.lhs.text (rule.complete.map (·.map Symbol.plain) ++ alternatives)

/-- What a rule says when symbols and alternatives are written behind it. -/
def ending : PlainStatement :=
  rule.completedBy ((rule.current.map Symbol.plain ++ symbols) :: alternatives)

theorem plain_statement : rule.statement.plain = rule.ending [] [] := by
  simp [statement, ending, completedBy, Statement.plain]

theorem ending_add (symbol : Symbol) :
    (rule.add symbol).ending symbols alternatives =
      rule.ending (symbol.plain :: symbols) alternatives := by
  simp [add, ending, completedBy]

theorem completedBy_next : rule.next.completedBy alternatives = rule.ending [] alternatives := by
  simp [next, ending, completedBy]

theorem ending_next :
    rule.next.ending symbols alternatives = rule.ending [] (symbols :: alternatives) := by
  rw [ending, completedBy_next]
  rfl

variable {rule}

theorem ending_of_current_eq_nil (fresh : rule.current = []) :
    rule.ending symbols alternatives = rule.completedBy (symbols :: alternatives) := by
  rw [ending, fresh]
  rfl

end OpenRule

namespace Place

/-! ## Steps -/

variable {offset : Nat} {c : Char} {following : Place}

theorem separated_eq_some_iff :
    separated c = some following ↔
      ((isLineEnd c = true ∨ c = ';') ∧ following = .margin) ∨
        (c = '#' ∧ following = .comment) := by
  grind [separated, signs]

theorem opening_eq_some_iff :
    opening offset c = some following ↔
      (isInlineBlank c = true ∧ following = .indented) ∨
        (isLineEnd c = true ∧ following = .margin) ∨ (c = '#' ∧ following = .comment) ∨
          (isIdentifierStart c = true ∧
            following = .leftName ((Slice.startingAt offset).push c)) := by
  grind [opening, signs]

theorem next_margin_eq_some_iff :
    next offset c .margin = some following ↔
      (c = ';' ∧ following = .margin) ∨ opening offset c = some following := by
  have closed : isInlineBlank ';' = false ∧ isLineEnd ';' = false ∧
      isIdentifierStart ';' = false := by decide +kernel
  grind [next, opening]

theorem next_comment_eq_some_iff :
    next offset c .comment = some following ↔
      (isReturn c = true ∧ following = .margin) ∨
        (isReturn c = false ∧ following = .comment) := by
  grind [next]

theorem afterName_eq_some_iff {name : Slice} :
    afterName name c = some following ↔
      (isInlineBlank c = true ∧ following = .afterLeftName name) ∨
        (c = '-' ∧ following = .arrow name) ∨
          (c = ':' ∧ name.text = startKeyword ∧ following = .colon) := by
  grind [afterName, signs]

theorem next_leftName_eq_some_iff {name : Slice} :
    next offset c (.leftName name) = some following ↔
      (isIdentifierContinue c = true ∧ following = .leftName (name.push c)) ∨
        (isIdentifierContinue c = false ∧ afterName name c = some following) := by
  grind [next]

theorem next_arrow_eq_some_iff {lhs : Slice} :
    next offset c (.arrow lhs) = some following ↔
      c = '>' ∧ following = .alternative ⟨lhs, [], []⟩ := by
  grind [next]

theorem beginSymbol_eq_some_iff {rule : OpenRule} :
    beginSymbol rule offset c = some following ↔
      (c = '"' ∧ following = .terminal rule (.startingAt (offset + c.utf8Size))) ∨
        (isIdentifierStart c = true ∧
          following = .rightName rule ((Slice.startingAt offset).push c)) := by
  grind [beginSymbol, signs]

theorem next_alternative_eq_some_iff {rule : OpenRule} :
    next offset c (.alternative rule) = some following ↔
      (isInlineBlank c = true ∧ following = .alternative rule) ∨
        beginSymbol rule offset c = some following := by
  grind [next, beginSymbol, signs]

theorem continueRule_eq_some_iff {rule : OpenRule} :
    continueRule rule offset c = some following ↔
      (isInlineBlank c = true ∧ following = .afterSymbol rule) ∨
        (c = '|' ∧ following = .alternative rule.next) ∨
          beginSymbol rule offset c = some following ∨ separated c = some following := by
  have closed : isInlineBlank '|' = false ∧ isLineEnd '|' = false ∧
      isIdentifierStart '|' = false := by decide +kernel
  grind [continueRule, beginSymbol, separated, signs]

theorem next_rightName_eq_some_iff {rule : OpenRule} {name : Slice} :
    next offset c (.rightName rule name) = some following ↔
      (isIdentifierContinue c = true ∧ following = .rightName rule (name.push c)) ∨
        (isIdentifierContinue c = false ∧
          continueRule (rule.add (.nonterminal name)) offset c = some following) := by
  grind [next]

theorem next_terminal_eq_some_iff {rule : OpenRule} {content : Slice} :
    next offset c (.terminal rule content) = some following ↔
      (c = '"' ∧ content.text ≠ "" ∧ following = .afterSymbol (rule.add (.terminal content))) ∨
        (c ≠ '"' ∧ isReturn c = false ∧ following = .terminal rule (content.push c)) := by
  have empty := @String.isEmpty_iff content.text
  grind [next]

theorem next_colon_eq_some_iff :
    next offset c .colon = some following ↔
      (isInlineBlank c = true ∧ following = .colon) ∨
        (isIdentifierStart c = true ∧
          following = .startName ((Slice.startingAt offset).push c)) := by
  grind [next]

theorem next_afterStartName_eq_some_iff {name : Slice} :
    next offset c (.afterStartName name) = some following ↔
      (isInlineBlank c = true ∧ following = .afterStartName name) ∨
        separated c = some following := by
  grind [next, separated, signs]

theorem next_startName_eq_some_iff {name : Slice} :
    next offset c (.startName name) = some following ↔
      (isIdentifierContinue c = true ∧ following = .startName (name.push c)) ∨
        (isIdentifierContinue c = false ∧
          next offset c (.afterStartName name) = some following) := by
  grind [next]

end Place

/-! ## Runs -/

theorem readFrom_nil_eq_ok_iff {place : Place} {offset : Nat} {found : List Statement} :
    readFrom place offset [] = .ok found ↔
      place.mayEnd = true ∧ place.statement?.toList = found := by
  rw [readFrom]
  cases place.mayEnd with
  | true => simp
  | false => simp

theorem readFrom_cons_eq_ok_iff {place : Place} {offset : Nat} {c : Char} {rest : List Char}
    {found : List Statement} :
    readFrom place offset (c :: rest) = .ok found ↔
      ∃ following, place.next offset c = some following ∧
        ∃ later, readFrom following (offset + c.utf8Size) rest = .ok later ∧
          (if following.isBetween then place.statement?.toList else []) ++ later = found := by
  rw [readFrom]
  cases place.next offset c with
  | none => simp
  | some following => simp [Outcome.map_eq_ok_iff]

theorem readFrom_nil_eq_error_iff {place : Place} {offset : Nat} {error : SyntaxError} :
    readFrom place offset [] = .error error ↔
      place.mayEnd = false ∧ ⟨none, place.expected true, ⟨offset, offset⟩⟩ = error := by
  rw [readFrom]
  cases place.mayEnd with
  | true => simp
  | false => simp

theorem readFrom_cons_eq_error_iff {place : Place} {offset : Nat} {c : Char} {rest : List Char}
    {error : SyntaxError} :
    readFrom place offset (c :: rest) = .error error ↔
      (place.next offset c = none ∧
        ⟨some c, place.expected false, ⟨offset, offset + c.utf8Size⟩⟩ = error) ∨
      ∃ following, place.next offset c = some following ∧
        readFrom following (offset + c.utf8Size) rest = .error error := by
  rw [readFrom]
  cases place.next offset c with
  | none => simp
  | some following => simp [Outcome.map_eq_error_iff]

end Cyk.Definition
