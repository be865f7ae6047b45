import Cyk.Proofs.Definition.Acceptance
import Cyk.Proofs.Definition.Lexing

/-!
# Parsers beside places

A parser that tries and goes back is compared with reading from place to place.  Either the parser
comes to where a place remembers the same, or it is stuck: it has met the error that reading gives,
and from where it has gone back to, nothing leads on.
-/

namespace Cyk.Definition

open Text

/-! ## Reading from a place -/

/-- What reading gives from a place in a definition and in its text. -/
def readAt (place : Place) (cursor : Cursor) : Except SyntaxError (List Statement) :=
  readFrom place cursor.offset cursor.rest

section Steps

variable {place following : Place} {offset : Nat} {c : Char} {front rest : List Char}
  {cursor behind : Cursor}

theorem readAt_within (allowed : place.next offset c = some following)
    (within : following.isBetween = false) :
    readAt place ⟨offset, c :: rest⟩ = readAt following ⟨offset + c.utf8Size, rest⟩ := by
  rw [readAt, readFrom, allowed]
  simp only [within]
  exact id_map' _

theorem readAt_single (passes : cursor.Passes [c] behind)
    (allowed : place.next cursor.offset c = some following)
    (within : following.isBetween = false) : readAt place cursor = readAt following behind := by
  rcases passes.uncons with ⟨rest, whole, later⟩
  rw [whole, readAt_within allowed within, ← later.eq_of_nil]

theorem readAt_between (allowed : place.next offset c = some following)
    (between : following.isBetween = true) :
    readAt place ⟨offset, c :: rest⟩ =
      (place.statement?.toList ++ ·) <$> readAt following ⟨offset + c.utf8Size, rest⟩ := by
  rw [readAt, readFrom, allowed]
  simp only [between]
  rfl

/-- Where nothing more is allowed, the error says what the place asks for. -/
theorem readAt_refused (refused : ∀ c ∈ cursor.rest.head?, place.next cursor.offset c = none)
    (unfinished : cursor.rest = [] → place.mayEnd = false) :
    readAt place cursor =
      .error (cursor.missing (place.expected cursor.rest.isEmpty)) := by
  rcases cursor with ⟨offset, _ | ⟨c, rest⟩⟩
  · rw [readAt, readFrom, unfinished rfl]
    rfl
  · rw [readAt, readFrom, refused c rfl]
    rfl

theorem readAt_blanks (patient : Patient place) (passes : cursor.Passes front behind)
    (blanks : ∀ c ∈ front, isInlineBlank c = true) :
    readAt place cursor = readAt place behind := by
  induction front generalizing cursor with
  | nil => rw [passes.eq_of_nil]
  | cons c front ih =>
    rcases List.forall_mem_cons.mp blanks with ⟨here, others⟩
    rcases passes.uncons with ⟨rest, whole, later⟩
    rw [whole, readAt_within (patient.blank cursor.offset c here) patient.inner, ih later others]

variable {placeOf settledOf : Slice → Place} {slice : Slice}

theorem readAt_collected {collected : Char → Prop} (collects : Collects placeOf collected)
    (passes : cursor.Passes front behind) (all : ∀ c ∈ front, collected c) :
    readAt (placeOf slice) cursor = readAt (placeOf (slice.extend front)) behind := by
  induction front generalizing cursor slice with
  | nil =>
    rw [passes.eq_of_nil]
    rfl
  | cons c front ih =>
    rcases List.forall_mem_cons.mp all with ⟨here, others⟩
    rcases passes.uncons with ⟨rest, whole, later⟩
    rw [whole, readAt_within (collects.grows cursor.offset c slice here) (collects.inner _),
      ih later others]
    rfl

/-- Blanks behind a name lead to where it is over. -/
theorem readAt_settled (collects : CollectsName placeOf settledOf)
    (patient : Patient (settledOf slice)) (passes : cursor.Passes front behind)
    (blanks : ∀ c ∈ front, isInlineBlank c = true) (nonempty : front ≠ []) :
    readAt (placeOf slice) cursor = readAt (settledOf slice) behind := by
  cases front with
  | nil => exact absurd rfl nonempty
  | cons c front =>
    rcases List.forall_mem_cons.mp blanks with ⟨here, others⟩
    rcases passes.uncons with ⟨rest, whole, later⟩
    have leaves : (placeOf slice).next cursor.offset c = some (settledOf slice) := by
      rw [collects.same cursor.offset c slice (of_isInlineBlank here).2.2.2]
      exact patient.blank cursor.offset c here
    rw [whole, readAt_within leaves patient.inner, readAt_blanks patient later others]

end Steps

/-! ## Parsers that take nothing -/

/-- A parser takes nothing of the text behind a place. -/
structure Halts {α : Type} (parser : Parser α) (cursor : Cursor) : Prop where
  awaits : ∃ expected, Awaits (parser cursor).furthest cursor expected
  behind_eq : ∀ value behind, (parser cursor).result = some (value, behind) → behind = cursor

namespace Halts

variable {α β : Type} {parser : Parser α} {next : α → Parser β} {cursor : Cursor}

theorem pure (value : α) : Halts (Pure.pure value : Parser α) cursor where
  awaits := ⟨[], Awaits.none⟩
  behind_eq := by
    rintro _ _ ⟨⟩
    rfl

theorem bind (halts : Halts parser cursor) (nextHalts : ∀ value, Halts (next value) cursor) :
    Halts (parser >>= next) cursor := by
  rcases halts with ⟨⟨expected, awaits⟩, behind_eq⟩
  rcases ran : parser cursor with ⟨_ | ⟨value, behind⟩, failure⟩
  · constructor
    · rw [Parser.bind_of_failed ran]
      rw [ran] at awaits
      exact ⟨expected, awaits⟩
    · rw [Parser.bind_of_failed ran]
      simp
  · rw [ran] at awaits behind_eq
    obtain rfl : behind = cursor := behind_eq value behind rfl
    rcases nextHalts value with ⟨⟨expectedLater, awaitsLater⟩, later⟩
    constructor
    · rw [Parser.bind_of_ok ran]
      exact ⟨_, awaits.merge awaitsLater⟩
    · rw [Parser.bind_of_ok ran]
      exact later

theorem rounds {round : Parser (Option α)} (halts : Halts round cursor) :
    Halts (Parser.rounds round) cursor := by
  rcases halts with ⟨⟨expected, awaits⟩, behind_eq⟩
  rcases ran : round cursor with ⟨_ | ⟨_ | value, behind⟩, failure⟩
  all_goals rw [ran] at awaits behind_eq
  · constructor
    · rw [Parser.rounds, ran]
      exact ⟨expected, awaits⟩
    · rw [Parser.rounds, ran]
      simp
  · constructor
    · rw [Parser.rounds_of_none ran]
      exact ⟨expected, awaits⟩
    · rw [Parser.rounds_of_none ran]
      rintro _ _ ⟨⟩
      exact behind_eq none behind rfl
  · obtain rfl : behind = cursor := behind_eq (some value) behind rfl
    have failed : Parser.rounds round behind = ⟨none, failure⟩ := by
      rw [Parser.rounds, ran]
      exact if_neg (Nat.lt_irrefl _)
    constructor
    · rw [failed]
      exact ⟨expected, awaits⟩
    · rw [failed]
      simp

end Halts

/-! ## Parsers that are stuck -/

/-- A run has met the error that reading gives, behind this place in the text; where it has gone
back to before that error, one of these characters comes next. -/
def Stuck {α : Type} (offset : Nat) (stops : Char → Prop) (run : Run α)
    (answer : Except SyntaxError (List Statement)) : Prop :=
  ∃ error, answer = .error error ∧ run.furthest = some error ∧ offset < error.span.start ∧
    ∀ value behind, run.result = some (value, behind) →
      behind.offset < error.span.start ∧ ∃ c ∈ behind.rest.head?, stops c

namespace Stuck

variable {α β : Type} {offset : Nat} {stops : Char → Prop} {run : Run α} {parser : Parser α}
  {cursor : Cursor} {answer : Except SyntaxError (List Statement)}

/-- A parser that has failed is stuck, wherever it might go on. -/
theorem of_failed {error : SyntaxError} (failed : answer = .error error)
    (ran : run = ⟨none, some error⟩) (beyond : offset < error.span.start) :
    Stuck offset stops run answer :=
  ⟨error, failed, by rw [ran], beyond, by simp [ran]⟩

theorem mono {offset' : Nat} {stops' : Char → Prop} (stuck : Stuck offset stops run answer)
    (before : offset' ≤ offset) (more : ∀ c, stops c → stops' c) :
    Stuck offset' stops' run answer := by
  rcases stuck with ⟨error, failed, furthest, beyond, back⟩
  refine ⟨error, failed, furthest, Nat.lt_of_le_of_lt before beyond, ?_⟩
  intro value behind came
  rcases back value behind came with ⟨before, c, first, stop⟩
  exact ⟨before, c, first, more c stop⟩

theorem map (f : α → β) (stuck : Stuck offset stops run answer) :
    Stuck offset stops (run.map f) answer := by
  rcases stuck with ⟨error, failed, furthest, beyond, back⟩
  refine ⟨error, failed, furthest, beyond, ?_⟩
  rintro _ behind came
  rcases Option.map_eq_some_iff.mp came with ⟨⟨value, behind⟩, came, ⟨⟩⟩
  exact back value behind came

/-- Failures from before do not count. -/
theorem after {failure : Option SyntaxError} {expected : List Expectation}
    (stuck : Stuck offset stops run answer) (awaits : Awaits failure cursor expected)
    (before : cursor.offset ≤ offset) : Stuck offset stops (run.after failure) answer := by
  rcases stuck with ⟨error, failed, furthest, beyond, back⟩
  refine ⟨error, failed, ?_, beyond, back⟩
  rw [Run.after, furthest]
  exact awaits.merge_of_lt (Nat.lt_of_le_of_lt before beyond)

/-- What takes nothing where the parser has gone back to does not help it. -/
theorem bind {next : α → Parser β} (stuck : Stuck offset stops (parser cursor) answer)
    (halts : ∀ value behind, (∃ c ∈ behind.rest.head?, stops c) → Halts (next value) behind) :
    Stuck offset stops ((parser >>= next) cursor) answer := by
  rcases stuck with ⟨error, failed, furthest, beyond, back⟩
  rcases ran : parser cursor with ⟨_ | ⟨value, behind⟩, failure⟩
  · rw [ran] at furthest
    exact of_failed failed (by rw [Parser.bind_of_failed ran]; exact congrArg _ furthest) beyond
  · rw [ran] at furthest back
    obtain rfl : failure = some error := furthest
    rcases back value behind rfl with ⟨before, stop⟩
    rcases halts value behind stop with ⟨⟨expected, awaits⟩, behind_eq⟩
    rw [Parser.bind_of_ok ran]
    refine ⟨error, failed, awaits.of_lt_merge before, beyond, ?_⟩
    intro result reached came
    obtain rfl : reached = behind := behind_eq result reached came
    exact ⟨before, stop⟩

theorem bind_after {next : α → Parser β} {failure : Option SyntaxError}
    (stuck : Stuck offset stops ((parser cursor).after failure) answer)
    (halts : ∀ value behind, (∃ c ∈ behind.rest.head?, stops c) → Halts (next value) behind) :
    Stuck offset stops (((parser >>= next) cursor).after failure) answer := by
  rw [← Parser.bind_afterFailure]
  exact Stuck.bind stuck halts

theorem rounds {round : Parser (Option α)} (stuck : Stuck offset stops (round cursor) answer)
    (halts : ∀ behind, (∃ c ∈ behind.rest.head?, stops c) → Halts round behind) :
    Stuck offset stops (Parser.rounds round cursor) answer := by
  rcases stuck with ⟨error, failed, furthest, beyond, back⟩
  rcases ran : round cursor with ⟨_ | ⟨_ | value, behind⟩, failure⟩
  all_goals
    rw [ran] at furthest back
    obtain rfl : failure = some error := furthest
  · exact of_failed failed (by rw [Parser.rounds, ran]) beyond
  · rw [Parser.rounds_of_none ran]
    refine ⟨error, failed, rfl, beyond, ?_⟩
    rintro _ _ ⟨⟩
    exact back none behind rfl
  · rcases back (some value) behind rfl with ⟨before, stop⟩
    by_cases shorter : behind.rest.length < cursor.rest.length
    · rcases (halts behind stop).rounds with ⟨⟨expected, awaits⟩, behind_eq⟩
      rw [Parser.rounds_of_some ran shorter]
      refine ⟨error, failed, awaits.of_lt_merge before, beyond, ?_⟩
      rintro _ reached came
      rcases Option.map_eq_some_iff.mp came with ⟨⟨values, last⟩, came, ⟨⟩⟩
      obtain rfl : reached = behind := behind_eq values reached came
      exact ⟨before, stop⟩
    · have stays : Parser.rounds round cursor = ⟨none, some error⟩ := by
        rw [Parser.rounds, ran]
        exact if_neg shorter
      exact of_failed failed stays beyond

end Stuck

end Cyk.Definition
