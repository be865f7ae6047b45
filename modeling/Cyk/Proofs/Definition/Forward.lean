import Cyk.Proofs.Definition.Lexing

/-!
# Parsers go forward

No parser leaves more of a text than there was, and what separates statements takes some of it.  So
repetitions come to an end, and a separator behind which no statement comes can be told apart from
the first one of a text only by what stands in front of it.
-/

namespace Cyk.Definition

open Text

namespace Parser

variable {α β : Type}

theorem result_bind (first : Parser α) (next : α → Parser β) (cursor : Cursor) :
    ((first >>= next) cursor).result =
      (first cursor).result.bind fun (value, behind) => (next value behind).result := by
  rcases ran : first cursor with ⟨_ | ⟨value, behind⟩, failure⟩
  · rw [bind_of_failed ran]
    rfl
  · rw [bind_of_ok ran]
    rfl

theorem result_orElse (first second : Parser α) (cursor : Cursor) :
    ((first <|> second) cursor).result = (first cursor).result.or (second cursor).result := by
  rcases ran : first cursor with ⟨_ | ⟨value, behind⟩, failure⟩
  · rw [orElse_of_failed ran]
    rfl
  · rw [orElse_of_ok ran]
    rfl

/-- What is left behind a parser is not more than what was there. -/
def Forward (parser : Parser α) : Prop :=
  ∀ cursor value behind, (parser cursor).result = some (value, behind) →
    behind.rest.length ≤ cursor.rest.length

/-- A parser takes some of the text. -/
def Consumes (parser : Parser α) : Prop :=
  ∀ cursor value behind, (parser cursor).result = some (value, behind) →
    behind.rest.length < cursor.rest.length

namespace Consumes

variable {parser : Parser α} {next : α → Parser β}

theorem forward (consumes : Consumes parser) : Forward parser :=
  fun cursor value behind ran => Nat.le_of_lt (consumes cursor value behind ran)

theorem bind (consumes : Consumes parser) (nextForward : ∀ value, Forward (next value)) :
    Consumes (parser >>= next) := by
  intro cursor value behind ran
  rw [result_bind] at ran
  rcases Option.bind_eq_some_iff.mp ran with ⟨⟨first, middle⟩, ran, ranNext⟩
  exact Nat.lt_of_le_of_lt (nextForward first middle value behind ranNext)
    (consumes cursor first middle ran)

theorem orElse {second : Parser α} (consumes : Consumes parser)
    (secondConsumes : Consumes second) : Consumes (parser <|> second) := by
  intro cursor value behind ran
  rw [result_orElse] at ran
  rcases Option.or_eq_some_iff.mp ran with ran | ⟨-, ran⟩
  · exact consumes cursor value behind ran
  · exact secondConsumes cursor value behind ran

end Consumes

theorem consumes_token (expectation atEnd : Expectation) (inKind : Char → Bool) :
    Consumes (token expectation atEnd inKind) := by
  rintro ⟨offset, _ | ⟨c, rest⟩⟩ value behind ran
  · contradiction
  · by_cases here : inKind c = true
    · rw [token_of_mem here] at ran
      cases ran
      exact Nat.lt_succ_self rest.length
    · rw [token_of_stops (Cursor.stops_of_head rfl (Bool.eq_false_iff.mpr here))] at ran
      contradiction

namespace Forward

variable {parser second : Parser α} {next : α → Parser β}

theorem pure (value : α) : Forward (Pure.pure value : Parser α) := by
  rintro cursor _ _ ⟨⟩
  exact Nat.le_refl _

theorem bind (forward : Forward parser) (nextForward : ∀ value, Forward (next value)) :
    Forward (parser >>= next) := by
  intro cursor value behind ran
  rw [result_bind] at ran
  rcases Option.bind_eq_some_iff.mp ran with ⟨⟨first, middle⟩, ran, ranNext⟩
  exact Nat.le_trans (nextForward first middle value behind ranNext)
    (forward cursor first middle ran)

theorem bind_consumes (forward : Forward parser) (nextConsumes : ∀ value, Consumes (next value)) :
    Consumes (parser >>= next) := by
  intro cursor value behind ran
  rw [result_bind] at ran
  rcases Option.bind_eq_some_iff.mp ran with ⟨⟨first, middle⟩, ran, ranNext⟩
  exact Nat.lt_of_lt_of_le (nextConsumes first middle value behind ranNext)
    (forward cursor first middle ran)

theorem map (f : α → β) (forward : Forward parser) : Forward (f <$> parser) :=
  forward.bind fun _ => Forward.pure _

theorem orElse (forward : Forward parser) (secondForward : Forward second) :
    Forward (parser <|> second) := by
  intro cursor value behind ran
  rw [result_orElse] at ran
  rcases Option.or_eq_some_iff.mp ran with ran | ⟨-, ran⟩
  · exact forward cursor value behind ran
  · exact secondForward cursor value behind ran

theorem failure : Forward (Alternative.failure : Parser α) := by
  intro cursor value behind ran
  contradiction

theorem orNothing (forward : Forward parser) : Forward (optional parser) :=
  (forward.map some).orElse (Forward.pure none)

/-- Rounds go forward, each from where the one before it has stopped. -/
theorem rounds {round : Parser (Option α)} (forward : Forward round) :
    Forward (Parser.rounds round) := by
  intro cursor values behind ran
  induction length : cursor.rest.length using Nat.strongRecOn generalizing cursor values with
  | ind n ih =>
    subst length
    rw [Parser.rounds] at ran
    split at ran
    · contradiction
    · rename_i middle found inner
      cases ran
      exact forward cursor none behind (by rw [inner])
    · rename_i value middle found inner
      split at ran
      · rename_i shorter
        rcases Option.map_eq_some_iff.mp ran with ⟨⟨others, last⟩, ran, ⟨⟩⟩
        exact Nat.le_of_lt (Nat.lt_of_le_of_lt (ih _ shorter middle others ran rfl) shorter)
      · contradiction

theorem repeated (forward : Forward parser) : Forward (Parser.repeated parser) :=
  forward.orNothing.rounds

theorem repeatedOnce (forward : Forward parser) : Forward (Parser.repeatedOnce parser) :=
  forward.bind fun _ => forward.repeated.bind fun _ => Forward.pure _

theorem sliced (forward : Forward parser) : Forward (Parser.sliced parser) := by
  intro cursor value behind ran
  rw [Parser.sliced] at ran
  split at ran
  · contradiction
  · rename_i taken last found inner
    cases ran
    exact forward cursor taken behind (by rw [inner])

theorem just (letters : List Char) : Forward (Parser.just letters) := by
  induction letters with
  | nil => exact Forward.pure ()
  | cons c letters ih => exact (consumes_token _ _ _).forward.bind fun _ => ih

end Forward

/-! ## The parsers of a definition -/

theorem forward_inlineBlanks : Forward inlineBlanks :=
  (consumes_token _ _ _).forward.repeated.map _

theorem forward_padded {parser : Parser α} (forward : Forward parser) : Forward (padded parser) :=
  forward_inlineBlanks.bind fun _ => forward.bind fun _ =>
    forward_inlineBlanks.bind fun _ => Forward.pure _

theorem forward_comment : Forward comment :=
  (Forward.just _).bind fun _ => (consumes_token _ _ _).forward.repeated.map _

theorem consumes_newline : Consumes newline := by
  rintro ⟨offset, rest⟩ value behind ran
  unfold newline at ran
  split at ran
  · rename_i later whole
    cases whole
    cases ran
    exact Nat.lt_add_of_pos_right Nat.two_pos
  · exact consumes_token _ _ _ _ value behind ran

theorem consumes_separatorItem : Consumes separatorItem := by
  have line : Consumes lineEnd := forward_inlineBlanks.bind_consumes fun _ =>
    (forward_comment.orNothing.map _).bind_consumes fun _ => consumes_newline
  have semicolon : Consumes (just [';']) :=
    (consumes_token _ _ _).bind fun _ => Forward.just []
  exact line.orElse semicolon

theorem forward_identifier : Forward identifier :=
  ((consumes_token _ _ _).forward.bind fun _ =>
    (consumes_token _ _ _).forward.repeated.map _).sliced

theorem forward_terminal : Forward terminal :=
  (Forward.just _).bind fun _ => (consumes_token _ _ _).forward.repeatedOnce.sliced.bind fun _ =>
    (Forward.just _).bind fun _ => Forward.pure _

theorem forward_alternative : Forward alternative :=
  (forward_padded (forward_terminal.orElse (forward_identifier.map _))).repeatedOnce

theorem forward_rule : Forward rule := by
  have bar := forward_padded (Forward.just ['|'])
  have others : Forward (separatedAfter (padded (just ['|'])) alternative false) :=
    ((bar.bind fun _ => (forward_alternative.map _).orElse Forward.failure).orElse
      (Forward.pure _)).rounds
  exact forward_identifier.bind fun _ => (forward_padded (Forward.just _)).bind fun _ =>
    (forward_alternative.bind fun _ => others.bind fun _ => Forward.pure _).bind fun _ =>
      Forward.pure _

theorem forward_statement : Forward statement := by
  have declaration : Forward startDeclaration := (Forward.just _).bind fun _ =>
    (forward_padded (Forward.just _)).bind fun _ => forward_identifier.map _
  exact declaration.orElse forward_rule

/-! ## Repetitions and separated items -/

section Separated

variable {item : Parser α} {cursor : Cursor} {sign : Parser Unit}

/-- A parser does not fail. -/
def Succeeds (parser : Parser α) (cursor : Cursor) : Prop :=
  ∃ value behind failure, parser cursor = ⟨some (value, behind), failure⟩

theorem succeeds_rounds {parser : Parser (Option α)} (consumes : Consumes parser)
    (cursor : Cursor) : Succeeds (rounds (parser <|> pure none)) cursor := by
  induction length : cursor.rest.length using Nat.strongRecOn generalizing cursor with
  | ind n ih =>
    subst length
    rcases ran : parser cursor with ⟨_ | ⟨_ | value, behind⟩, failure⟩
    · refine ⟨[], cursor, failure, rounds_of_none ?_⟩
      rw [orElse_of_failed ran]
      simp [Run.after, pure_apply]
    · exact ⟨[], behind, failure, rounds_of_none (orElse_of_ok ran _)⟩
    · have shorter := consumes cursor (some value) behind (by rw [ran])
      rcases ih _ shorter behind rfl with ⟨values, last, later, rest⟩
      refine ⟨value :: values, last, failure.merge SyntaxError.merge later, ?_⟩
      rw [rounds_of_some (orElse_of_ok ran _) shorter, rest]
      rfl

/-- A repetition of items that take some of the text always comes to an end. -/
theorem succeeds_repeated (consumes : Consumes item) (cursor : Cursor) :
    Succeeds (repeated item) cursor :=
  succeeds_rounds (consumes.bind fun _ => Forward.pure _) cursor

theorem consumes_separator (consumes : Consumes sign) :
    Consumes (discard (repeatedOnce sign)) :=
  (consumes.bind fun _ => consumes.forward.repeated.bind fun _ => Forward.pure _).bind
    fun _ => Forward.pure _

theorem succeeds_separatedAfter (consumes : Consumes sign) (forward : Forward item)
    (cursor : Cursor) : Succeeds (separatedAfter (discard (repeatedOnce sign)) item true) cursor :=
  succeeds_rounds ((consumes_separator consumes).bind fun _ =>
    (forward.map some).orElse (Forward.pure none)) cursor

/-- Items behind a separator, or none. -/
def itemsBehind (separator : Parser Unit) (item : Parser α) : Parser (List α) :=
  (do
    let first ← item
    let others ← separatedAfter separator item true
    return first :: others) <|> pure []

theorem itemsBehind_of_failed {separator : Parser Unit} {failure : Option SyntaxError}
    (failed : item cursor = ⟨none, failure⟩) :
    itemsBehind separator item cursor = ⟨some ([], cursor), failure⟩ := by
  rw [itemsBehind, orElse_of_failed (bind_of_failed failed _)]
  simp [Run.after, pure_apply]

theorem itemsBehind_of_ok (consumes : Consumes sign) (forward : Forward item) {first : α}
    {next : Cursor} {failure : Option SyntaxError}
    (ran : item cursor = ⟨some (first, next), failure⟩) :
    itemsBehind (discard (repeatedOnce sign)) item cursor =
      ((separatedAfter (discard (repeatedOnce sign)) item true next).map (first :: ·)).after
        failure := by
  have items : (do
      let first ← item
      let others ← separatedAfter (discard (repeatedOnce sign)) item true
      return first :: others : Parser (List α)) cursor =
        ((separatedAfter (discard (repeatedOnce sign)) item true next).map (first :: ·)).after
          failure :=
    (bind_of_ok ran _).trans (congrArg (Run.after · failure) (map_apply _ _ _))
  rcases succeeds_separatedAfter consumes forward next with ⟨others, last, later, rest⟩
  rw [rest] at items ⊢
  exact orElse_of_ok items _

/-- Any number of separating signs, and the items behind them. -/
def separatedBehind (sign : Parser Unit) (item : Parser α) : Parser (List α) := do
  discard (repeated sign)
  itemsBehind (discard (repeatedOnce sign)) item

theorem separator_of_ok {value : Unit} {behind last : Cursor} {failure later : Option SyntaxError}
    {values : List Unit} (ran : sign cursor = ⟨some (value, behind), failure⟩)
    (rest : repeated sign behind = ⟨some (values, last), later⟩) :
    (discard (repeatedOnce sign)) cursor =
      ⟨some ((), last), failure.merge SyntaxError.merge later⟩ := by
  rw [discard_apply, repeatedOnce_of_ok ran, rest]
  rfl

/-- The separator in front of everything may be missing. -/
theorem separated_apply (consumes : Consumes sign) (item : Parser α) (cursor : Cursor) :
    separated (discard (repeatedOnce sign)) item cursor = separatedBehind sign item cursor := by
  have signs : (discard (optional (discard (repeatedOnce sign)))) cursor =
      (discard (repeated sign)) cursor := by
    rcases ran : sign cursor with ⟨_ | ⟨value, behind⟩, failure⟩
    · have failed : (discard (repeatedOnce sign)) cursor = ⟨none, failure⟩ := by
        rw [discard_apply, repeatedOnce_of_failed ran]
        rfl
      rw [discard_apply, optional_of_failed failed, discard_apply, repeated_of_failed ran]
      rfl
    · rcases succeeds_repeated consumes behind with ⟨values, last, later, rest⟩
      rw [discard_apply, optional_of_ok (separator_of_ok ran rest), discard_apply,
        repeated_of_ok ran (consumes cursor value behind (by rw [ran])), rest]
      rfl
  change (discard (optional (discard (repeatedOnce sign))) >>= fun _ => _) cursor =
    (discard (repeated sign) >>= fun _ => _) cursor
  rcases ran : (discard (repeated sign)) cursor with ⟨_ | ⟨value, behind⟩, failure⟩
  · rw [bind_of_failed ran, bind_of_failed (signs.trans ran)]
  · rw [bind_of_ok ran, bind_of_ok (signs.trans ran)]
    rfl

theorem separatedAfter_of_failed {failure : Option SyntaxError}
    (failed : sign cursor = ⟨none, failure⟩) (item : Parser α) :
    separatedAfter (discard (repeatedOnce sign)) item true cursor =
      ⟨some ([], cursor), failure⟩ := by
  have unseparated : (discard (repeatedOnce sign)) cursor = ⟨none, failure⟩ := by
    rw [discard_apply, repeatedOnce_of_failed failed]
    rfl
  apply rounds_of_none
  rw [orElse_of_failed (bind_of_failed unseparated _)]
  simp [Run.after, pure_apply]

/-- Where a separating sign has been taken, it goes on as at the beginning. -/
theorem separatedAfter_of_ok (consumes : Consumes sign) (forward : Forward item) {value : Unit}
    {behind : Cursor} {failure : Option SyntaxError}
    (ran : sign cursor = ⟨some (value, behind), failure⟩) :
    separatedAfter (discard (repeatedOnce sign)) item true cursor =
      (separatedBehind sign item behind).after failure := by
  rcases succeeds_repeated consumes behind with ⟨values, last, later, rest⟩
  have separator := separator_of_ok ran rest
  have signs : (discard (repeated sign)) behind = ⟨some ((), last), later⟩ := by
    rw [discard_apply, rest]
    rfl
  have shorter : last.rest.length < cursor.rest.length :=
    consumes_separator consumes cursor () last (by rw [separator])
  have opened : separatedBehind sign item behind =
      (itemsBehind (discard (repeatedOnce sign)) item last).after later := bind_of_ok signs _
  have inner : (do
      discard (repeatedOnce sign)
      some <$> item <|> (if true then pure none else Alternative.failure) : Parser (Option α))
        cursor = ((optional item) last).after (failure.merge SyntaxError.merge later) :=
    bind_of_ok separator _
  rw [opened, Run.after_after]
  rcases found : item last with ⟨_ | ⟨first, next⟩, furthest⟩
  · rw [optional_of_failed found] at inner
    rw [itemsBehind_of_failed found]
    exact rounds_of_none (orElse_of_ok inner _)
  · rw [optional_of_ok found] at inner
    have closer : next.rest.length < cursor.rest.length :=
      Nat.lt_of_le_of_lt (forward last first next (by rw [found])) shorter
    rw [itemsBehind_of_ok consumes forward found, Run.after_after]
    exact rounds_of_some (orElse_of_ok inner _) closer

end Separated

end Parser

end Cyk.Definition
