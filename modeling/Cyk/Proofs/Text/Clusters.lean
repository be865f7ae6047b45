import Cyk.Text.Grapheme

/-!
# Clusters beside spaces and lines

The signs that tables are drawn with are clusters of their own, and what comes behind them is
counted as at the beginning of a text.  But a text in a table need not be as wide as it is alone: a
mark at its beginning belongs to the space in front of it, and a sign at its end that is put before
others takes in the space behind it.  Nothing else is lost.
-/

namespace Cyk.Text

namespace Grapheme

/-- A character that belongs to the cluster in front of it, whatever that is. -/
def isMark (c : Char) : Bool :=
  match BreakClass.of c with
  | .extender | .joiner | .spacingMark => true
  | _ => false

/-- A character that belongs to the cluster behind it, whatever that is. -/
def isPrepended (c : Char) : Bool :=
  BreakClass.of c == .prepended

/-- A character that is no part of any other cluster, nor of what makes one. -/
def IsPlain (c : Char) : Prop :=
  BreakClass.of c = .other ∧ pictographPoints.has c = false ∧
    conjunctConsonantPoints.has c = false ∧ conjunctLinkerPoints.has c = false

instance : DecidablePred IsPlain := fun c =>
  inferInstanceAs (Decidable (BreakClass.of c = .other ∧ pictographPoints.has c = false ∧
    conjunctConsonantPoints.has c = false ∧ conjunctLinkerPoints.has c = false))

variable {c : Char}

/-! ## Single characters -/

/-- Behind a plain character everything is as at the beginning. -/
theorem push_of_isPlain (plain : IsPlain c) (context : Context) : context.push c = .empty := by
  rcases plain with ⟨other, pictograph, consonant, linker⟩
  have mark : isConjunctMark c = false := by
    rw [isConjunctMark, other]
    exact Bool.and_false _
  simp only [Context.push, other, pictograph, consonant, linker, mark, Context.empty]
  cases context.emoji <;> simp

theorem joins_of_isPlain (plain : IsPlain c) (context : Context) :
    context.joins c = (context.last == .prepended) := by
  rcases plain with ⟨other, pictograph, consonant, -⟩
  simp only [Context.joins, other, pictograph, consonant]
  cases context.last <;> simp [BreakClass.isControl]

theorem joins_empty (c : Char) : Context.empty.joins c = isMark c := by
  rw [Context.joins, isMark]
  cases BreakClass.of c <;> simp [Context.empty, BreakClass.isControl]

/-! ## Counting in parts -/

/-- What a text tells about the boundary behind it. -/
def Context.after (context : Context) (text : List Char) : Context :=
  text.foldl Context.push context

theorem countFrom_append (context : Context) (front back : List Char) :
    countFrom context (front ++ back) =
      countFrom context front + countFrom (context.after front) back := by
  induction front generalizing context with
  | nil => simp [countFrom, Context.after]
  | cons c rest ih =>
    rw [List.cons_append, countFrom, countFrom, ih, Nat.add_assoc]
    rfl

theorem last_after (context : Context) (text : List Char) :
    (context.after text).last = (text.getLast?.map BreakClass.of).getD context.last := by
  induction text generalizing context with
  | nil => rfl
  | cons c rest ih =>
    have last := ih (context.push c)
    rw [Context.after, List.foldl_cons]
    rw [Context.after] at last
    rw [last, List.getLast?_cons]
    cases rest.getLast? <;> rfl

theorem countFrom_plain_cons (plain : IsPlain c) (context : Context) (rest : List Char) :
    countFrom context (c :: rest) =
      (if context.last = .prepended then 0 else 1) + countFrom .empty rest := by
  rw [countFrom, joins_of_isPlain plain, push_of_isPlain plain]
  simp only [beq_iff_eq]

/-- Plain characters are one cluster each. -/
theorem countFrom_plain {text : List Char} (plain : ∀ c ∈ text, IsPlain c) (rest : List Char) :
    countFrom .empty (text ++ rest) = text.length + countFrom .empty rest := by
  induction text with
  | nil => simp
  | cons c text ih =>
    rcases List.forall_mem_cons.mp plain with ⟨here, others⟩
    have starts : Context.empty.last ≠ .prepended := by decide
    rw [List.cons_append, countFrom_plain_cons here, if_neg starts, ih others, List.length_cons]
    omega

theorem count_plain_cons (plain : IsPlain c) (rest : List Char) :
    count (c :: rest) = 1 + countFrom .empty rest := by
  rw [count, push_of_isPlain plain]

end Grapheme

open Grapheme

theorem width_of_isPlain {text : String} (plain : ∀ c ∈ text.toList, IsPlain c) :
    width text = text.length := by
  rw [width, ← String.length_toList]
  cases letters : text.toList with
  | nil => rfl
  | cons c rest =>
    rw [letters] at plain
    rcases List.forall_mem_cons.mp plain with ⟨here, others⟩
    have counted := countFrom_plain others []
    rw [List.append_nil, countFrom] at counted
    rw [count_plain_cons here, counted, List.length_cons]
    omega

/-! ## Texts between spaces -/

/-- The first character of the text is a mark. -/
def BeginsWithMark (text : String) : Prop :=
  ∃ c ∈ text.toList.head?, isMark c = true

/-- The last character of the text is put before what follows. -/
def EndsInPrepended (text : String) : Prop :=
  ∃ c ∈ text.toList.getLast?, isPrepended c = true

instance : DecidablePred BeginsWithMark := fun text =>
  decidable_of_iff (text.toList.head?.any isMark = true) (Option.any_eq_true _ _)

instance : DecidablePred EndsInPrepended := fun text =>
  decidable_of_iff (text.toList.getLast?.any isPrepended = true) (Option.any_eq_true _ _)

/-- How many clusters of a text and of the spaces on both sides are one with another of them. -/
def overlap (text : String) : Nat :=
  (if BeginsWithMark text then 1 else 0) + (if EndsInPrepended text then 1 else 0)

theorem overlap_eq_zero_iff {text : String} :
    overlap text = 0 ↔ ¬ BeginsWithMark text ∧ ¬ EndsInPrepended text := by
  unfold overlap
  by_cases begins : BeginsWithMark text <;> by_cases ends : EndsInPrepended text <;>
    simp [begins, ends]

/-- Behind a space, a text has all its clusters but for a mark at the beginning. -/
theorem countFrom_toList (text : String) :
    countFrom .empty text.toList + (if BeginsWithMark text then 1 else 0) = width text := by
  cases letters : text.toList with
  | nil =>
    have none : ¬ BeginsWithMark text := by simp [BeginsWithMark, letters]
    rw [width, letters, if_neg none]
    rfl
  | cons c rest =>
    have begins : BeginsWithMark text ↔ isMark c = true := by simp [BeginsWithMark, letters]
    rw [width, letters, countFrom, count, joins_empty]
    simp only [begins]
    split <;> omega

theorem last_after_toList (text : String) :
    (Context.empty.after text.toList).last = .prepended ↔ EndsInPrepended text := by
  rw [last_after, EndsInPrepended]
  cases text.toList.getLast? with
  | none => simp [Context.empty]
  | some c => simp [isPrepended]

/-- Between two spaces, a text and the space behind it have as many clusters as alone, but for those
that are one with another. -/
theorem countFrom_between (text : String) {space : Char} (plain : IsPlain space)
    (rest : List Char) :
    countFrom .empty (text.toList ++ space :: rest) + overlap text =
      width text + 1 + countFrom .empty rest := by
  have front := countFrom_toList text
  rw [countFrom_append, countFrom_plain_cons plain, overlap]
  simp only [last_after_toList]
  split <;> omega

end Cyk.Text
