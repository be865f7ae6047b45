import Cyk.Definition.Reader
import Cyk.Proofs.Definition.Combinators
import Cyk.Proofs.Definition.Steps

/-!
# How tokens are parsed

Blanks, comments, line ends, names and terminals: where the parser of each comes to, and what it
asks for there.  A repetition of tokens stops before the first character of another kind, so what
it takes is known from the text.
-/

namespace Cyk.Definition

open Text

/-! ## Parts of a text -/

namespace Cursor

/-- One place lies behind another one, with this part of the text between them. -/
structure Passes (cursor : Cursor) (front : List Char) (behind : Cursor) : Prop where
  rest_eq : cursor.rest = front ++ behind.rest
  offset_eq : behind.offset = cursor.offset + byteLength front

/-- A place lies in front of another one, with some of the text between them. -/
def Precedes (cursor behind : Cursor) : Prop :=
  ∃ front, front ≠ [] ∧ cursor.Passes front behind

/-- The next character, if there is one, is not of a kind. -/
def Stops (cursor : Cursor) (inKind : Char → Bool) : Prop :=
  ∀ c ∈ cursor.rest.head?, inKind c = false

namespace Passes

variable {cursor middle behind : Cursor} {c : Char} {front back : List Char}

theorem nil : cursor.Passes [] cursor :=
  ⟨rfl, rfl⟩

theorem eq_of_nil (passes : cursor.Passes [] behind) : behind = cursor := by
  rcases behind with ⟨offset, rest⟩
  obtain rfl : offset = cursor.offset := passes.offset_eq
  obtain rfl : cursor.rest = rest := passes.rest_eq
  rfl

theorem single {offset : Nat} {rest : List Char} :
    (⟨offset, c :: rest⟩ : Cursor).Passes [c] ⟨offset + c.utf8Size, rest⟩ :=
  ⟨rfl, rfl⟩

theorem trans (passes : cursor.Passes front middle) (later : middle.Passes back behind) :
    cursor.Passes (front ++ back) behind where
  rest_eq := by rw [passes.rest_eq, later.rest_eq, List.append_assoc]
  offset_eq := by rw [later.offset_eq, passes.offset_eq, byteLength_append, Nat.add_assoc]

theorem split (passes : cursor.Passes (front ++ back) behind) :
    ∃ middle, cursor.Passes front middle ∧ middle.Passes back behind := by
  refine ⟨⟨cursor.offset + byteLength front, back ++ behind.rest⟩, ⟨?_, rfl⟩, rfl, ?_⟩
  · rw [passes.rest_eq, List.append_assoc]
  · rw [passes.offset_eq, byteLength_append, Nat.add_assoc]

/-- The first character is passed, and then the others. -/
theorem uncons (passes : cursor.Passes (c :: front) behind) :
    ∃ rest, cursor = ⟨cursor.offset, c :: rest⟩ ∧
      Passes ⟨cursor.offset + c.utf8Size, rest⟩ front behind := by
  rcases cursor with ⟨offset, _⟩
  rcases passes with ⟨rfl, offset_eq⟩
  refine ⟨front ++ behind.rest, rfl, rfl, ?_⟩
  rw [offset_eq, byteLength_cons, Nat.add_assoc]

theorem head (passes : cursor.Passes (c :: front) behind) : c ∈ cursor.rest.head? := by
  rw [passes.rest_eq]
  rfl

theorem length_eq (passes : cursor.Passes front behind) :
    cursor.rest.length = front.length + behind.rest.length := by
  rw [passes.rest_eq, List.length_append]

theorem length_le (passes : cursor.Passes front behind) :
    behind.rest.length ≤ cursor.rest.length := by
  rw [passes.length_eq]
  exact Nat.le_add_left _ _

theorem offset_lt (passes : cursor.Passes front behind) (nonempty : front ≠ []) :
    cursor.offset < behind.offset := by
  rw [passes.offset_eq]
  exact Nat.lt_add_of_pos_right (byteLength_pos nonempty)

/-- Where nothing is asked for, nothing is asked for behind it. -/
theorem awaits {failure : Option SyntaxError} (passes : cursor.Passes front behind)
    (awaits : Awaits failure cursor []) : Awaits failure behind [] := by
  by_cases none : front = []
  · subst none
    rwa [passes.eq_of_nil]
  · exact awaits.of_lt (passes.offset_lt none)

theorem precedes (passes : cursor.Passes front behind) (nonempty : front ≠ []) :
    cursor.Precedes behind :=
  ⟨front, nonempty, passes⟩

end Passes

namespace Precedes

variable {cursor middle behind : Cursor} {back : List Char}

theorem offset_lt (precedes : cursor.Precedes behind) : cursor.offset < behind.offset := by
  rcases precedes with ⟨front, nonempty, passes⟩
  exact passes.offset_lt nonempty

theorem length_lt (precedes : cursor.Precedes behind) :
    behind.rest.length < cursor.rest.length := by
  rcases precedes with ⟨front, nonempty, passes⟩
  rw [passes.length_eq]
  exact Nat.lt_add_of_pos_left (List.length_pos_iff.mpr nonempty)

theorem trans_passes (precedes : cursor.Precedes middle) (later : middle.Passes back behind) :
    cursor.Precedes behind := by
  rcases precedes with ⟨front, nonempty, passes⟩
  exact (passes.trans later).precedes (List.append_ne_nil_of_left_ne_nil nonempty back)

theorem trans (precedes : cursor.Precedes middle) (later : middle.Precedes behind) :
    cursor.Precedes behind := by
  rcases later with ⟨back, _, passes⟩
  exact precedes.trans_passes passes

end Precedes

/-- The next character is of another kind. -/
theorem stops_of_head {cursor : Cursor} {c : Char} {inKind : Char → Bool}
    (first : c ∈ cursor.rest.head?) (other : inKind c = false) : cursor.Stops inKind := by
  intro d head
  rw [Option.mem_def.mp first] at head
  cases head
  exact other

/-- A text begins with the longest part of a kind. -/
theorem exists_longest (inKind : Char → Bool) (cursor : Cursor) :
    ∃ front behind, cursor.Passes front behind ∧ (∀ c ∈ front, inKind c = true) ∧
      behind.Stops inKind := by
  have stops := List.head?_dropWhile_not inKind cursor.rest
  refine ⟨cursor.rest.takeWhile inKind,
    ⟨cursor.offset + byteLength (cursor.rest.takeWhile inKind), cursor.rest.dropWhile inKind⟩,
    ⟨List.takeWhile_append_dropWhile.symm, rfl⟩, List.all_eq_true.mp List.all_takeWhile, ?_⟩
  intro c first
  rw [first] at stops
  simpa using stops

/-- A character comes next or it does not. -/
theorem stops_or_passes (cursor : Cursor) (c : Char) :
    cursor.Stops (· == c) ∨ ∃ behind, cursor.Passes [c] behind := by
  rcases cursor with ⟨offset, _ | ⟨d, rest⟩⟩
  · left
    rintro _ ⟨⟩
  · by_cases same : d = c
    · subst same
      exact Or.inr ⟨_, .single⟩
    · left
      rintro _ ⟨⟩
      exact beq_eq_false_iff_ne.mpr same

/-- What is missing where no token of a kind is. -/
def lacking (cursor : Cursor) (expectation atEnd : Expectation) : Expectation :=
  if cursor.rest.isEmpty then atEnd else expectation

@[simp]
theorem lacking_self (cursor : Cursor) (expectation : Expectation) :
    cursor.lacking expectation expectation = expectation :=
  ite_self expectation

end Cursor

/-- The slice that begins at a place and has these characters. -/
theorem Slice.extend_startingAt (offset : Nat) (letters : List Char) :
    (Slice.startingAt offset).extend letters =
      ⟨String.ofList letters, ⟨offset, offset + byteLength letters⟩⟩ := by
  have spans : ∀ slice : Slice, (slice.extend letters).span =
      ⟨slice.span.start, slice.span.stop + byteLength letters⟩ := by
    induction letters with
    | nil => exact fun slice => rfl
    | cons c letters ih =>
      intro slice
      change ((slice.push c).extend letters).span = _
      rw [ih, byteLength_cons, ← Nat.add_assoc]
      rfl
  calc
    (Slice.startingAt offset).extend letters =
        ⟨((Slice.startingAt offset).extend letters).text,
          ((Slice.startingAt offset).extend letters).span⟩ := rfl
    _ = ⟨String.ofList letters, ⟨offset, offset + byteLength letters⟩⟩ := by
      rw [Slice.extend_startingAt_text, spans]
      rfl

namespace Parser

variable {cursor behind : Cursor} {c : Char} {front : List Char} {offset : Nat} {rest : List Char}
  {expectation atEnd : Expectation} {inKind : Char → Bool} {α : Type} {parser : Parser α}

/-! ## Tokens -/

theorem token_of_mem (here : inKind c = true) :
    token expectation atEnd inKind ⟨offset, c :: rest⟩ =
      ⟨some ((), ⟨offset + c.utf8Size, rest⟩), none⟩ :=
  if_pos here

theorem token_of_stops (stops : cursor.Stops inKind) :
    token expectation atEnd inKind cursor =
      ⟨none, some (cursor.missing [cursor.lacking expectation atEnd])⟩ := by
  rcases cursor with ⟨offset, _ | ⟨c, rest⟩⟩
  · rfl
  · exact if_neg (Bool.eq_false_iff.mp (stops c rfl))

/-- A repetition takes all tokens there are. -/
theorem repeated_token (passes : cursor.Passes front behind) (all : ∀ c ∈ front, inKind c = true)
    (stops : behind.Stops inKind) :
    ∃ values, repeated (token expectation atEnd inKind) cursor =
      ⟨some (values, behind), some (behind.missing [behind.lacking expectation atEnd])⟩ := by
  induction front generalizing cursor with
  | nil =>
    rw [passes.eq_of_nil] at stops ⊢
    exact ⟨[], repeated_of_failed (token_of_stops stops)⟩
  | cons c front ih =>
    rcases List.forall_mem_cons.mp all with ⟨here, others⟩
    rcases passes.uncons with ⟨rest, whole, passes⟩
    rcases ih passes others with ⟨values, ran⟩
    have shorter : rest.length < (c :: rest).length := Nat.lt_succ_self _
    refine ⟨() :: values, ?_⟩
    rw [whole, repeated_of_ok (token_of_mem here) shorter, ran, Run.after_none]
    rfl

theorem repeatedOnce_token (passes : cursor.Passes front behind) (nonempty : front ≠ [])
    (all : ∀ c ∈ front, inKind c = true) (stops : behind.Stops inKind) :
    ∃ values, repeatedOnce (token expectation atEnd inKind) cursor =
      ⟨some (values, behind), some (behind.missing [behind.lacking expectation atEnd])⟩ := by
  cases front with
  | nil => contradiction
  | cons c front =>
    rcases List.forall_mem_cons.mp all with ⟨here, others⟩
    rcases passes.uncons with ⟨rest, whole, passes⟩
    rcases repeated_token passes others stops with ⟨values, ran⟩
    refine ⟨() :: values, ?_⟩
    rw [whole, repeatedOnce_of_ok (token_of_mem here), ran, Run.after_none]
    rfl

theorem just_cons_of_passes (passes : cursor.Passes [c] behind) (others : List Char) :
    just (c :: others) cursor = just others behind := by
  rcases passes.uncons with ⟨rest, whole, later⟩
  have here : token (.character c) (.character c) (· == c) ⟨cursor.offset, c :: rest⟩ =
      ⟨some ((), ⟨cursor.offset + c.utf8Size, rest⟩), none⟩ :=
    token_of_mem (beq_self_eq_true c)
  rw [whole, later.eq_of_nil]
  exact (bind_of_ok here _).trans (Run.after_none _)

theorem just_of_passes {letters : List Char} (passes : cursor.Passes letters behind) :
    just letters cursor = ⟨some ((), behind), none⟩ := by
  induction letters generalizing cursor with
  | nil =>
    rw [passes.eq_of_nil]
    rfl
  | cons c letters ih =>
    rcases passes.uncons with ⟨rest, whole, later⟩
    rw [whole, just_cons_of_passes .single, ih later]

theorem just_of_stops (others : List Char) (stops : cursor.Stops (· == c)) :
    just (c :: others) cursor = ⟨none, some (cursor.missing [.character c])⟩ := by
  have failed : token (.character c) (.character c) (· == c) cursor =
      ⟨none, some (cursor.missing [.character c])⟩ := by
    rw [token_of_stops stops, Cursor.lacking_self]
  exact bind_of_failed failed _

/-- What is sliced out is the part of the text that is passed. -/
theorem sliced_of_ok {value : α} {failure : Option SyntaxError}
    (passes : cursor.Passes front behind)
    (ran : parser cursor = ⟨some (value, behind), failure⟩) :
    sliced parser cursor =
      ⟨some ((Slice.startingAt cursor.offset).extend front, behind), failure⟩ := by
  have taken : cursor.rest.take (cursor.rest.length - behind.rest.length) = front := by
    rw [passes.rest_eq, List.length_append, Nat.add_sub_cancel, List.take_left]
  rw [sliced, ran, Slice.extend_startingAt, ← passes.offset_eq]
  simp only [taken]

theorem sliced_of_failed {failure : Option SyntaxError}
    (failed : parser cursor = ⟨none, failure⟩) : sliced parser cursor = ⟨none, failure⟩ := by
  rw [sliced, failed]

/-! ## Blanks, comments and line ends -/

theorem inlineBlanks_of_passes (passes : cursor.Passes front behind)
    (blanks : ∀ c ∈ front, isInlineBlank c = true) (stops : behind.Stops isInlineBlank) :
    inlineBlanks cursor =
      ⟨some ((), behind), some (behind.missing [behind.lacking .blank .anything])⟩ := by
  rcases repeated_token passes blanks stops with ⟨values, ran⟩
  rw [inlineBlanks, discard_apply, ran]
  rfl

theorem inlineBlanks_of_stops (stops : cursor.Stops isInlineBlank) :
    inlineBlanks cursor =
      ⟨some ((), cursor), some (cursor.missing [cursor.lacking .blank .anything])⟩ :=
  inlineBlanks_of_passes .nil (List.forall_mem_nil _) stops

section Padded

variable {start middle : Cursor} {before failure later : Option SyntaxError} {value : α}

theorem padded_of_ok (blanks : inlineBlanks cursor = ⟨some ((), start), before⟩)
    (ran : parser start = ⟨some (value, middle), failure⟩)
    (blanksLater : inlineBlanks middle = ⟨some ((), behind), later⟩) :
    padded parser cursor = ⟨some (value, behind),
      before.merge SyntaxError.merge (failure.merge SyntaxError.merge later)⟩ := by
  refine (bind_of_ok blanks _).trans ?_
  rw [bind_of_ok ran, bind_of_ok blanksLater]
  simp [Run.after, pure_apply]

theorem padded_of_failed (blanks : inlineBlanks cursor = ⟨some ((), start), before⟩)
    (failed : parser start = ⟨none, failure⟩) :
    padded parser cursor = ⟨none, before.merge SyntaxError.merge failure⟩ := by
  refine (bind_of_ok blanks _).trans ?_
  rw [bind_of_failed failed]
  rfl

/-- Characters with blanks around them. -/
theorem paddedJust_of_passes {letters gap : List Char} {expected : List Expectation}
    (blanks : inlineBlanks cursor = ⟨some ((), start), some (start.missing expected)⟩)
    (passes : start.Passes letters middle) (nonempty : letters ≠ [])
    (passesGap : middle.Passes gap behind) (blank : ∀ c ∈ gap, isInlineBlank c = true)
    (stops : behind.Stops isInlineBlank) :
    padded (just letters) cursor =
      ⟨some ((), behind), some (behind.missing [behind.lacking .blank .anything])⟩ := by
  have forward : start.offset < behind.offset :=
    (passes.trans passesGap).offset_lt (List.append_ne_nil_of_left_ne_nil nonempty gap)
  rw [padded_of_ok blanks (just_of_passes passes) (inlineBlanks_of_passes passesGap blank stops),
    Option.merge_none_left, Awaits.missing.merge_of_lt forward]

end Padded

theorem comment_of_passes (passes : cursor.Passes ('#' :: front) behind)
    (within : ∀ c ∈ front, isReturn c = false) (stops : behind.Stops (!isReturn ·)) :
    comment cursor = ⟨some ((), behind), some (behind.missing [.somethingElse])⟩ := by
  have all : ∀ c ∈ front, (!isReturn c) = true := by simpa using within
  rcases passes.uncons with ⟨rest, whole, passes⟩
  rcases repeated_token passes all stops with ⟨values, ran⟩
  rw [whole]
  refine (bind_of_ok (just_of_passes .single) _).trans ?_
  rw [Run.after_none, discard_apply, ran, Cursor.lacking_self]
  rfl

theorem comment_of_stops (stops : cursor.Stops (· == '#')) :
    comment cursor = ⟨none, some (cursor.missing [.character '#'])⟩ :=
  bind_of_failed (just_of_stops [] stops) _

theorem newline_pair :
    newline ⟨offset, '\r' :: '\n' :: rest⟩ = ⟨some ((), ⟨offset + 2, rest⟩), none⟩ := rfl

theorem newline_single (ends : isLineEnd c = true)
    (alone : ¬ (c = '\r' ∧ rest.head? = some '\n')) :
    newline ⟨offset, c :: rest⟩ = ⟨some ((), ⟨offset + c.utf8Size, rest⟩), none⟩ := by
  unfold newline
  split
  · rename_i whole
    cases whole
    exact absurd ⟨rfl, rfl⟩ alone
  · exact token_of_mem ends

theorem newline_of_stops (stops : cursor.Stops isLineEnd) :
    newline cursor = ⟨none, some (cursor.missing [.lineEnd])⟩ := by
  rcases cursor with ⟨offset, rest⟩
  unfold newline
  split
  · rename_i whole
    cases whole
    exact absurd (stops '\r' rfl) (by decide)
  · rw [token_of_stops stops, Cursor.lacking_self]

/-! ## Names -/

theorem identifier_of_passes (passes : cursor.Passes front behind)
    (named : isIdentifier front = true) (stops : behind.Stops isIdentifierContinue) :
    identifier cursor =
      ⟨some ((Slice.startingAt cursor.offset).extend front, behind),
        some (behind.missing [behind.lacking .identifier .anything])⟩ := by
  cases front with
  | nil => contradiction
  | cons c front =>
    rcases Bool.and_eq_true_iff.mp named with ⟨starts, continues⟩
    rcases passes.uncons with ⟨rest, whole, later⟩
    rcases repeated_token later (List.all_eq_true.mp continues) stops with ⟨values, ran⟩
    have parsed : (do
        token .identifier .anything isIdentifierStart
        discard (repeated (token .identifier .anything isIdentifierContinue)) : Parser Unit)
          cursor =
        ⟨some ((), behind), some (behind.missing [behind.lacking .identifier .anything])⟩ := by
      rw [whole]
      refine (bind_of_ok (token_of_mem starts) _).trans ?_
      rw [Run.after_none, discard_apply, ran]
      rfl
    exact sliced_of_ok passes parsed

theorem identifier_of_stops (stops : cursor.Stops isIdentifierStart) :
    identifier cursor =
      ⟨none, some (cursor.missing [cursor.lacking .identifier .anything])⟩ :=
  sliced_of_failed (bind_of_failed (token_of_stops stops) _)

end Parser

end Cyk.Definition
