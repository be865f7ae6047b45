import Cyk.Proofs.Definition.Symbols

/-!
# How right sides are parsed

Alternatives, with bars between them.  A bar that no alternative comes behind is gone back, and the
error stays that of the alternative.
-/

namespace Cyk.Definition

open Text Cyk.Definition.Parser

variable {rule : OpenRule} {cursor : Cursor} {failure : Option SyntaxError}
  {answer : Except SyntaxError (List Statement)}

/-- What is asked for where an alternative should begin. -/
theorem readAt_alternative_refused (unblank : cursor.Stops isInlineBlank)
    (stops : cursor.Stops beginsSymbol) :
    readAt (.alternative rule) cursor = .error (cursor.missing
      (Expectation.join [cursor.lacking .blank .anything] cursor.withoutSymbol)) := by
  have refused : ∀ c ∈ cursor.rest.head?,
      Place.next cursor.offset c (.alternative rule) = none := by
    intro c first
    rcases Bool.or_eq_false_iff.mp (stops c first) with ⟨unquoted, unnamed⟩
    simp [Place.next, Place.beginSymbol, unblank c first, unquoted, unnamed]
  rw [readAt_refused refused fun _ => rfl]
  rcases cursor with ⟨offset, _ | ⟨c, rest⟩⟩
  · rfl
  · rfl

/-- An alternative is parsed behind an arrow or a bar, or the parser is stuck there. -/
theorem alternative_parsed (unblank : cursor.Stops isInlineBlank)
    (awaits : Awaits failure cursor [cursor.lacking .blank .anything]) {offset : Nat}
    (before : offset < cursor.offset) :
    (∃ symbols behind later,
        (alternative cursor).after failure = ⟨some (symbols, behind), later⟩ ∧
      Reaches (readAt (.alternative rule) cursor) (rule.addAll symbols) behind later
        behind.withoutSymbol ∧
      behind.Stops beginsSymbol ∧ cursor.Precedes behind) ∨
      Stuck offset (· = '"') ((alternative cursor).after failure)
        (readAt (.alternative rule) cursor) := by
  have mayBegin : MayBegin (.alternative rule) rule cursor :=
    fun c _ following begun => Reads.beginsSymbol_alternative cursor.offset c following begun
  rcases paddedSymbol_parsed mayBegin unblank with
    ⟨stops, failed⟩ | ⟨symbol, middle, found, ran, reaches, precedes⟩ |
      ⟨_, error, failed, beyond, read⟩
  · right
    refine Stuck.of_failed (readAt_alternative_refused unblank stops) ?_ before
    rw [alternative, repeatedOnce_of_failed failed, awaits.eq_missing (List.cons_ne_nil _ _),
      Run.after, Option.merge_some_some, SyntaxError.merge_missing]
  · have parsed : (alternative cursor).after failure =
        ((repeated (padded Parser.symbol) middle).after
          (failure.merge SyntaxError.merge found)).map (symbol :: ·) := by
      rw [alternative, repeatedOnce_of_ok ran, Run.after_after, Run.map_after]
    have forward := precedes.offset_lt
    rcases symbols_parsed (reaches.after awaits forward) with
      ⟨symbols, front, behind, later, rest, reached, stops, passes⟩ | stuck
    · left
      refine ⟨symbol :: symbols, behind, later, ?_, ?_, stops, precedes.trans_passes passes⟩
      · rw [parsed, rest]
        rfl
      · rwa [OpenRule.addAll_cons]
    · right
      rcases reaches.after awaits forward with ⟨_, _, _, _, awaitsFound, _⟩
      rw [parsed]
      exact ((stuck.after awaitsFound (Nat.le_refl _)).map _).mono
        (Nat.le_of_lt (Nat.lt_trans before forward)) fun _ => id
  · right
    refine Stuck.of_failed read ?_ (Nat.lt_trans before beyond)
    rw [alternative, repeatedOnce_of_failed failed, Run.after, awaits.merge_of_lt beyond]

/-! ## Bars -/

/-- What is missing where a bar should be. -/
def Cursor.withoutBar (cursor : Cursor) : List Expectation :=
  Expectation.join [cursor.lacking .blank .anything] [.character '|']

theorem paddedBar_of_stops (unblank : cursor.Stops isInlineBlank)
    (stops : cursor.Stops (· == '|')) :
    padded (just ['|']) cursor = ⟨none, some (cursor.missing cursor.withoutBar)⟩ := by
  rw [padded_of_failed (inlineBlanks_of_stops unblank) (just_of_stops [] stops),
    Option.merge_some_some, SyntaxError.merge_missing]
  rfl

/-- A bar and the alternative behind it. -/
def barred : Parser (Option (List Symbol)) := do
  padded (just ['|'])
  some <$> alternative <|> Alternative.failure

/-- Another alternative, or the end of the right side. -/
def bar : Parser (Option (List Symbol)) :=
  barred <|> pure none

theorem separatedAfter_eq_rounds_bar :
    separatedAfter (padded (just ['|'])) alternative false = rounds bar := rfl

theorem bar_of_stops (unblank : cursor.Stops isInlineBlank) (stops : cursor.Stops (· == '|')) :
    bar cursor = ⟨some (none, cursor), some (cursor.missing cursor.withoutBar)⟩ := by
  refine (orElse_of_failed (bind_of_failed (paddedBar_of_stops unblank stops) _) _).trans ?_
  rfl

/-- Behind a terminal that does not end, there is no bar to be found. -/
theorem halts_bar_of_quote (quote : '"' ∈ cursor.rest.head?) : Halts bar cursor := by
  have stays := bar_of_stops (Cursor.stops_of_head quote (by decide))
    (Cursor.stops_of_head quote (by decide))
  constructor
  · rw [stays]
    exact ⟨_, Awaits.missing⟩
  · rw [stays]
    rintro _ _ ⟨⟩
    rfl

/-- Where the alternative behind a bar is stuck, so are the alternatives: they end before the bar if
none is found there, and else before what cannot be parsed. -/
theorem stuck_bars {run : Run (List Symbol)} (barred_eq : barred cursor = run.map some)
    (bar_head : '|' ∈ cursor.rest.head?) (stuck : Stuck cursor.offset (· = '"') run answer) :
    Stuck cursor.offset (fun c => c = '"' ∨ c = '|') (rounds bar cursor) answer := by
  rcases stuck with ⟨error, failed, furthest, beyond, back⟩
  rcases run with ⟨_ | ⟨symbols, behind⟩, _⟩
  all_goals obtain rfl := furthest
  · have stays : bar cursor = ⟨some (none, cursor), some error⟩ :=
      (orElse_of_failed barred_eq _).trans (by simp [Run.after, pure_apply])
    rw [rounds_of_none stays]
    refine ⟨error, failed, rfl, beyond, ?_⟩
    rintro _ _ ⟨⟩
    exact ⟨beyond, '|', bar_head, Or.inr rfl⟩
  · have stuck : Stuck cursor.offset (· = '"') (bar cursor) answer := by
      rw [bar, orElse_of_ok barred_eq]
      refine ⟨error, failed, rfl, beyond, ?_⟩
      rintro _ _ ⟨⟩
      exact back symbols behind rfl
    have halts : ∀ behind : Cursor, (∃ c ∈ behind.rest.head?, c = '"') → Halts bar behind := by
      rintro behind ⟨_, quote, rfl⟩
      exact halts_bar_of_quote quote
    exact (stuck.rounds halts).mono (Nat.le_refl _) fun _ => Or.inl

/-- A bar is parsed with the alternative behind it, or the parser is stuck there. -/
theorem bar_parsed {place : Place} {expected : List Expectation}
    (rests : Rests cursor rule place expected) (unblank : cursor.Stops isInlineBlank)
    {inside : Cursor} (opens : cursor.Passes ['|'] inside) :
    (∃ symbols behind later, bar cursor = ⟨some (some symbols, behind), later⟩ ∧
      Reaches (readAt place cursor) (rule.next.addAll symbols) behind later
        behind.withoutSymbol ∧
      behind.Stops beginsSymbol ∧ cursor.Precedes behind) ∨
      Stuck cursor.offset (fun c => c = '"' ∨ c = '|') (rounds bar cursor)
        (readAt place cursor) := by
  rcases Cursor.exists_longest isInlineBlank inside with ⟨gap, next, passes, blank, stops⟩
  have precedes : cursor.Precedes next :=
    (opens.precedes (List.cons_ne_nil _ _)).trans_passes passes
  have reads : readAt place cursor = readAt (.alternative rule.next) next := by
    have allowed : place.next cursor.offset '|' = some (.alternative rule.next) := by
      rw [rests.next_eq '|' opens.head]
      exact Place.continueRule_eq_some_iff.mpr (Or.inr (Or.inl ⟨rfl, rfl⟩))
    rw [readAt_single opens allowed rfl, readAt_blanks Reads.patient_alternative passes blank]
  have barred_eq : barred cursor = ((alternative next).after
      (some (next.missing [next.lacking .blank .anything]))).map some := by
    have opened := paddedJust_of_passes (inlineBlanks_of_stops unblank) opens
      (List.cons_ne_nil _ _) passes blank stops
    refine (bind_of_ok opened _).trans ?_
    rw [orElse_failure, map_apply, Run.map_after]
  rw [reads]
  rcases alternative_parsed stops Awaits.missing precedes.offset_lt with
    ⟨symbols, behind, later, ran, reaches, none, further⟩ | stuck
  · left
    rw [ran] at barred_eq
    exact ⟨symbols, behind, later, orElse_of_ok barred_eq _, reaches, none,
      precedes.trans further⟩
  · exact Or.inr (stuck_bars barred_eq opens.head stuck)

theorem OpenRule.statement_addAll_next (rule : OpenRule) (symbols : List Symbol)
    (alternatives : List (List Symbol)) :
    Statement.rule (rule.next.addAll symbols).lhs
        ((rule.next.addAll symbols).complete ++
          (rule.next.addAll symbols).current :: alternatives) =
      .rule rule.lhs (rule.complete ++ rule.current :: symbols :: alternatives) := by
  simp [OpenRule.next, OpenRule.addAll]

/-- The alternatives behind the first one are parsed as long as there are bars. -/
theorem bars_parsed (reaches : Reaches answer rule cursor failure cursor.withoutSymbol)
    (unopened : cursor.Stops beginsSymbol) :
    (∃ alternatives after front behind later, (rounds bar cursor).after failure =
        ⟨some (alternatives, behind), later⟩ ∧
      after.statement = .rule rule.lhs (rule.complete ++ rule.current :: alternatives) ∧
      Reaches answer after behind later
        (Expectation.join behind.withoutSymbol behind.withoutBar) ∧
      behind.Stops beginsSymbol ∧ behind.Stops (· == '|') ∧ cursor.Passes front behind) ∨
      Stuck cursor.offset (fun c => c = '"' ∨ c = '|') (rounds bar cursor) answer := by
  induction length : cursor.rest.length using Nat.strongRecOn
    generalizing cursor rule failure with
  | ind n ih =>
    subst length
    rcases reaches with ⟨place, expected, rests, unblank, awaits, rfl⟩
    rcases cursor.stops_or_passes '|' with stops | ⟨inside, opens⟩
    · left
      refine ⟨[], rule, [], cursor, failure.merge SyntaxError.merge
        (some (cursor.missing cursor.withoutBar)), ?_, rfl, ?_, unopened, stops, .nil⟩
      · rw [rounds_of_none (bar_of_stops unblank stops)]
        rfl
      · have merged := awaits.merge
          (Awaits.missing : Awaits (some (cursor.missing cursor.withoutBar)) cursor _)
        rw [Expectation.join_assoc] at merged
        exact ⟨place, expected, rests, unblank, merged, rfl⟩
    · rcases bar_parsed rests unblank opens with
        ⟨symbols, behind, found, ran, reaches, stops, precedes⟩ | stuck
      · have repeats := rounds_of_some ran precedes.length_lt
        have forward := precedes.offset_lt
        rcases ih _ precedes.length_lt (reaches.after awaits forward) stops rfl with
          ⟨alternatives, after, front, last, later, rest, said, reached, stops, closed, passes⟩ |
            stuck
        · left
          rcases precedes.trans_passes passes with ⟨front, _, passes⟩
          refine ⟨symbols :: alternatives, after, front, last, later, ?_, ?_, reached, stops,
            closed, passes⟩
          · rw [repeats, Run.after_after, ← Run.map_after, rest]
            rfl
          · rw [said, OpenRule.statement_addAll_next]
        · right
          rcases reaches with ⟨_, _, _, _, awaitsFound, _⟩
          rw [repeats]
          exact ((stuck.map _).after awaitsFound (Nat.le_refl _)).mono (Nat.le_of_lt forward)
            fun _ => id
      · exact Or.inr stuck

/-- The alternatives of a rule. -/
theorem alternatives_parsed {lhs : Slice} (unblank : cursor.Stops isInlineBlank)
    (awaits : Awaits failure cursor [cursor.lacking .blank .anything]) {offset : Nat}
    (before : offset < cursor.offset) :
    (∃ alternatives after behind later,
        (separatedOnce (padded (just ['|'])) alternative cursor).after failure =
          ⟨some (alternatives, behind), later⟩ ∧
      after.statement = .rule lhs alternatives ∧
      Reaches (readAt (.alternative ⟨lhs, [], []⟩) cursor) after behind later
        (Expectation.join behind.withoutSymbol behind.withoutBar) ∧
      behind.Stops beginsSymbol ∧ behind.Stops (· == '|') ∧ cursor.Precedes behind) ∨
      Stuck offset (fun c => c = '"' ∨ c = '|')
        ((separatedOnce (padded (just ['|'])) alternative cursor).after failure)
        (readAt (.alternative ⟨lhs, [], []⟩) cursor) := by
  rw [separatedOnce, separatedAfter_eq_rounds_bar]
  rcases @alternative_parsed ⟨lhs, [], []⟩ cursor failure unblank awaits offset before with
    ⟨symbols, middle, found, ran, reaches, stops, precedes⟩ | stuck
  · have parsed : ((do
        let first ← alternative
        let others ← rounds bar
        return first :: others : Parser (List (List Symbol))) cursor).after failure =
          ((rounds bar middle).after found).map (symbols :: ·) := by
      have first : afterFailure failure alternative cursor = ⟨some (symbols, middle), found⟩ := ran
      rw [← bind_afterFailure, bind_of_ok first, Run.map_after]
      exact congrArg (Run.after · found) (map_apply _ _ _)
    rw [parsed]
    rcases bars_parsed reaches stops with
      ⟨alternatives, after, front, behind, later, rest, said, reached, stops, closed, passes⟩ |
        stuck
    · left
      refine ⟨symbols :: alternatives, after, behind, later, ?_, said, reached, stops, closed,
        precedes.trans_passes passes⟩
      rw [rest]
      rfl
    · right
      rcases reaches with ⟨_, _, _, _, awaitsFound, _⟩
      exact ((stuck.after awaitsFound (Nat.le_refl _)).map _).mono
        (Nat.le_of_lt (Nat.lt_trans before precedes.offset_lt)) fun _ => id
  · right
    have halts : ∀ (value : List Symbol) (behind : Cursor),
        (∃ c ∈ behind.rest.head?, c = '"') →
          Halts (do let others ← rounds bar; return value :: others) behind := by
      rintro value behind ⟨_, quote, rfl⟩
      exact (halts_bar_of_quote quote).rounds.bind fun _ => Halts.pure _
    exact (stuck.bind_after halts).mono (Nat.le_refl _) fun _ => Or.inl

end Cyk.Definition
