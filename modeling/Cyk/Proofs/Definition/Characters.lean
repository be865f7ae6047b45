import Cyk.Definition.Reader

/-!
# The characters of a definition

The kinds of characters that a reader tells apart do not overlap, so the order in which it asks for
them is of no account.
-/

namespace Cyk.Definition

open Text

variable {c : Char}

theorem isLineEnd_iff :
    isLineEnd c = true ↔ c ∈ ['\n', '\r', '\x0b', '\x0c', '\u0085', '\u2028', '\u2029'] := by
  simp [isLineEnd, or_assoc]

theorem isInlineBlank_iff : isInlineBlank c = true ↔ c ∈ [' ', '\t'] := by
  simp [isInlineBlank]

theorem isReturn_iff : isReturn c = true ↔ c ∈ ['\n', '\r'] := by
  simp [isReturn]

/-- What holds of a finite class of characters can be checked one by one. -/
theorem forall_mem_of_all {kind : List Char} {holds : Char → Prop} [DecidablePred holds]
    (all : (kind.all fun c => decide (holds c)) = true) : ∀ c ∈ kind, holds c :=
  fun c member => of_decide_eq_true (List.all_eq_true.mp all c member)

/-- The characters that separate and join the parts of a definition. -/
def signs : List Char :=
  [';', '#', '"', '|', '-', '>', ':']

/-- A line end is neither blank nor a sign nor part of a name. -/
@[grind →]
theorem of_isLineEnd (ends : isLineEnd c = true) :
    isInlineBlank c = false ∧ c ∉ signs ∧
      isIdentifierStart c = false ∧ isIdentifierContinue c = false := by
  have all : ∀ c ∈ ['\n', '\r', '\x0b', '\x0c', '\u0085', '\u2028', '\u2029'],
      isInlineBlank c = false ∧ c ∉ signs ∧
        isIdentifierStart c = false ∧ isIdentifierContinue c = false :=
    forall_mem_of_all (by decide +kernel)
  exact all c (isLineEnd_iff.mp ends)

/-- A blank is neither a line end nor a sign nor part of a name. -/
@[grind →]
theorem of_isInlineBlank (blank : isInlineBlank c = true) :
    isLineEnd c = false ∧ c ∉ signs ∧
      isIdentifierStart c = false ∧ isIdentifierContinue c = false := by
  have all : ∀ c ∈ [' ', '\t'],
      isLineEnd c = false ∧ c ∉ signs ∧
        isIdentifierStart c = false ∧ isIdentifierContinue c = false :=
    forall_mem_of_all (by decide +kernel)
  exact all c (isInlineBlank_iff.mp blank)

/-- A sign is no part of a name. -/
theorem of_mem_signs (sign : c ∈ signs) :
    isIdentifierStart c = false ∧ isIdentifierContinue c = false := by
  have all : ∀ c ∈ signs, isIdentifierStart c = false ∧ isIdentifierContinue c = false :=
    forall_mem_of_all (by decide +kernel)
  exact all c sign

/-- A character that begins a name is none of the others. -/
@[grind →]
theorem of_isIdentifierStart (starts : isIdentifierStart c = true) :
    isInlineBlank c = false ∧ isLineEnd c = false ∧ c ∉ signs := by
  constructor
  · apply Bool.eq_false_iff.mpr
    intro blank
    exact absurd starts (Bool.eq_false_iff.mp (of_isInlineBlank blank).2.2.1)
  constructor
  · apply Bool.eq_false_iff.mpr
    intro ends
    exact absurd starts (Bool.eq_false_iff.mp (of_isLineEnd ends).2.2.1)
  · intro sign
    exact absurd starts (Bool.eq_false_iff.mp (of_mem_signs sign).1)

theorem isLineEnd_of_isReturn (ends : isReturn c = true) : isLineEnd c = true := by
  have all : ∀ c ∈ ['\n', '\r'], isLineEnd c = true := forall_mem_of_all (by decide)
  exact all c (isReturn_iff.mp ends)

/-- The letters of the keyword form a name. -/
theorem isIdentifier_startKeyword : isIdentifier startKeyword.toList = true := by
  decide +kernel

end Cyk.Definition
