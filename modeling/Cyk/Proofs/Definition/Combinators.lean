import Cyk.Definition.Parser

/-!
# The laws of parsers

What a parser that is put together from others does, from what these do.  Failures are followed by
what they ask for at the place that has been come to: those further in front no longer count.
-/

namespace Cyk.Definition

/-! ## Failures -/

namespace Expectation

variable (expected later last : List Expectation)

theorem join_nil : join expected [] = expected := by
  simp [join]

theorem nil_join : join [] later = later := by
  simp [join]

variable {later} in
theorem join_ne_nil (nonempty : later ≠ []) : join expected later ≠ [] := by
  by_cases none : expected = []
  · rwa [none, nil_join]
  · rw [join]
    split
    · exact nonempty
    · exact List.append_ne_nil_of_left_ne_nil none _

theorem join_assoc : join (join expected later) last = join expected (join later last) := by
  by_cases lastAny : .anything ∈ last
  · simp [join, lastAny]
  by_cases laterAny : .anything ∈ later
  · simp [join, lastAny, laterAny]
  · have kept : last.filter (· ∉ expected ++ later.filter (· ∉ expected)) =
        (last.filter (· ∉ later)).filter (· ∉ expected) := by
      rw [List.filter_filter]
      apply List.filter_congr
      grind
    simp only [join, lastAny, laterAny, if_false, List.mem_append, List.mem_filter, false_and,
      or_self, List.filter_append, List.append_assoc]
    rw [← kept]
    simp [List.mem_append]

end Expectation

instance : Std.Associative SyntaxError.merge where
  assoc error later last := by
    rcases error with ⟨found, expected, ⟨start, stop⟩⟩
    rcases later with ⟨foundLater, expectedLater, ⟨startLater, stopLater⟩⟩
    rcases last with ⟨foundLast, expectedLast, ⟨startLast, stopLast⟩⟩
    have assoc := Expectation.join_assoc expected expectedLater expectedLast
    grind [SyntaxError.merge]

@[simp]
theorem Cursor.start_missing (cursor : Cursor) (expected : List Expectation) :
    (cursor.missing expected).span.start = cursor.offset := rfl

@[simp]
theorem SyntaxError.merge_missing (cursor : Cursor) (expected later : List Expectation) :
    SyntaxError.merge (cursor.missing expected) (cursor.missing later) =
      cursor.missing (Expectation.join expected later) := by
  simp [SyntaxError.merge, Cursor.missing]

theorem SyntaxError.option_merge_assoc (first later last : Option SyntaxError) :
    (first.merge merge later).merge merge last = first.merge merge (later.merge merge last) :=
  Std.Associative.assoc first later last

/-- The furthest failure asks for this at a place, or for nothing if it lies in front of it. -/
def Awaits (failure : Option SyntaxError) (cursor : Cursor) (expected : List Expectation) : Prop :=
  (expected = [] ∧ ∀ error ∈ failure, error.span.start < cursor.offset) ∨
    failure = some (cursor.missing expected)

namespace Awaits

variable {failure later : Option SyntaxError} {cursor behind : Cursor}
  {expected expectedLater : List Expectation} {error : SyntaxError}

theorem none : Awaits none cursor [] :=
  Or.inl ⟨rfl, by simp⟩

theorem missing : Awaits (some (cursor.missing expected)) cursor expected :=
  Or.inr rfl

theorem eq_missing (awaits : Awaits failure cursor expected) (nonempty : expected ≠ []) :
    failure = some (cursor.missing expected) := by
  rcases awaits with ⟨none, _⟩ | rfl
  · exact absurd none nonempty
  · rfl

/-- No failure lies behind the place. -/
theorem start_le (awaits : Awaits failure cursor expected) :
    ∀ error ∈ failure, error.span.start ≤ cursor.offset := by
  rcases awaits with ⟨_, before⟩ | rfl
  · exact fun error member => Nat.le_of_lt (before error member)
  · rintro _ ⟨⟩
    exact Nat.le_refl cursor.offset

theorem of_lt (awaits : Awaits failure cursor expected) (forward : cursor.offset < behind.offset) :
    Awaits failure behind [] :=
  Or.inl ⟨rfl, fun error member => Nat.lt_of_le_of_lt (awaits.start_le error member) forward⟩

theorem merge (awaits : Awaits failure cursor expected)
    (awaitsLater : Awaits later cursor expectedLater) :
    Awaits (failure.merge SyntaxError.merge later) cursor
      (Expectation.join expected expectedLater) := by
  rcases awaits with ⟨rfl, before⟩ | rfl
  · rw [Expectation.nil_join]
    cases failure with
    | none => rwa [Option.merge_none_left]
    | some error =>
      have before : error.span.start < cursor.offset := before error rfl
      rcases awaitsLater with ⟨rfl, beforeLater⟩ | rfl
      · cases later with
        | none => exact Or.inl ⟨rfl, by simpa using before⟩
        | some last =>
          have beforeLater : last.span.start < cursor.offset := beforeLater last rfl
          left
          simp only [Option.merge_some_some, Option.mem_some, forall_eq', true_and]
          grind [SyntaxError.merge]
      · right
        rw [Option.merge_some_some, SyntaxError.merge, Cursor.start_missing,
          if_neg (Nat.lt_asymm before), if_pos before]
  · rcases awaitsLater with ⟨rfl, beforeLater⟩ | rfl
    · rw [Expectation.join_nil]
      right
      cases later with
      | none => rw [Option.merge_none_right]
      | some last =>
        have beforeLater : last.span.start < cursor.offset := beforeLater last rfl
        rw [Option.merge_some_some, SyntaxError.merge, Cursor.start_missing,
          if_pos beforeLater]
    · exact Or.inr (congrArg some (SyntaxError.merge_missing cursor expected expectedLater))

/-- What has been asked for in front of a place does not count there. -/
theorem nil_merge (awaits : Awaits failure cursor expected)
    (forward : cursor.offset < behind.offset) (awaitsLater : Awaits later behind expectedLater) :
    Awaits (failure.merge SyntaxError.merge later) behind expectedLater := by
  have merged := (awaits.of_lt forward).merge awaitsLater
  rwa [Expectation.nil_join] at merged

/-- A failure further behind is the one that counts. -/
theorem merge_of_lt (awaits : Awaits failure cursor expected)
    (beyond : cursor.offset < error.span.start) :
    failure.merge SyntaxError.merge (some error) = some error := by
  cases failure with
  | none => rfl
  | some first =>
    have position := Nat.lt_of_le_of_lt (awaits.start_le first rfl) beyond
    rw [Option.merge_some_some, SyntaxError.merge, if_neg (Nat.lt_asymm position), if_pos position]

theorem of_lt_merge (awaits : Awaits failure cursor expected)
    (beyond : cursor.offset < error.span.start) :
    (some error).merge SyntaxError.merge failure = some error := by
  cases failure with
  | none => rfl
  | some last =>
    have position := Nat.lt_of_le_of_lt (awaits.start_le last rfl) beyond
    rw [Option.merge_some_some, SyntaxError.merge, if_pos position]

end Awaits

/-! ## Runs -/

namespace Run

variable {α β : Type} (run : Run α)

@[simp]
theorem after_none : run.after none = run := by
  simp [after]

@[simp]
theorem after_after (failure earlier : Option SyntaxError) :
    (run.after failure).after earlier = run.after (earlier.merge SyntaxError.merge failure) := by
  simp only [after, SyntaxError.option_merge_assoc]

theorem after_failed (failure later : Option SyntaxError) :
    (⟨none, later⟩ : Run α).after failure = ⟨none, failure.merge SyntaxError.merge later⟩ := rfl

theorem map_map {γ : Type} (f : α → β) (g : β → γ) : (run.map f).map g = run.map (g ∘ f) := by
  simp [map, Function.comp_def]

@[simp]
theorem map_after (f : α → β) (failure : Option SyntaxError) :
    (run.after failure).map f = (run.map f).after failure := rfl

end Run

namespace Parser

variable {α β : Type} {first : Parser α} {value : α} {cursor behind : Cursor}
  {failure : Option SyntaxError}

theorem pure_apply (value : α) (cursor : Cursor) :
    (pure value : Parser α) cursor = ⟨some (value, cursor), none⟩ := rfl

theorem bind_of_ok (ran : first cursor = ⟨some (value, behind), failure⟩) (next : α → Parser β) :
    (first >>= next) cursor = (next value behind).after failure := by
  change andThen first next cursor = _
  rw [andThen, ran]

theorem bind_of_failed (failed : first cursor = ⟨none, failure⟩) (next : α → Parser β) :
    (first >>= next) cursor = ⟨none, failure⟩ := by
  change andThen first next cursor = _
  rw [andThen, failed]

/-- Where two parsers do the same, they do the same before others. -/
theorem bind_of_after {second : Parser α} (same : first cursor = (second behind).after failure)
    (next : α → Parser β) :
    (first >>= next) cursor = ((second >>= next) behind).after failure := by
  rcases ran : second behind with ⟨_ | ⟨value, last⟩, furthest⟩
  · rw [ran] at same
    rw [bind_of_failed ran, bind_of_failed same]
    rfl
  · rw [ran] at same
    rw [bind_of_ok ran, bind_of_ok same, Run.after_after]

/-- A parser that runs after a failure. -/
def afterFailure (failure : Option SyntaxError) (parser : Parser α) : Parser α := fun cursor =>
  (parser cursor).after failure

theorem bind_afterFailure (failure : Option SyntaxError) (first : Parser α)
    (next : α → Parser β) (cursor : Cursor) :
    (afterFailure failure first >>= next) cursor = ((first >>= next) cursor).after failure :=
  bind_of_after rfl next

theorem orElse_of_ok (ran : first cursor = ⟨some (value, behind), failure⟩) (second : Parser α) :
    (first <|> second) cursor = ⟨some (value, behind), failure⟩ := by
  change orElse first (fun _ => second) cursor = _
  rw [orElse, ran]

theorem orElse_of_failed (failed : first cursor = ⟨none, failure⟩) (second : Parser α) :
    (first <|> second) cursor = (second cursor).after failure := by
  change orElse first (fun _ => second) cursor = _
  rw [orElse, failed]

theorem orElse_failure (parser : Parser α) (cursor : Cursor) :
    (parser <|> Alternative.failure) cursor = parser cursor := by
  rcases ran : parser cursor with ⟨_ | ⟨value, behind⟩, furthest⟩
  · refine (orElse_of_failed ran _).trans ?_
    simp [Alternative.failure, Run.after]
  · exact orElse_of_ok ran _

theorem map_apply (f : α → β) (parser : Parser α) (cursor : Cursor) :
    (f <$> parser) cursor = (parser cursor).map f := by
  rcases ran : parser cursor with ⟨_ | ⟨value, behind⟩, failure⟩
  · exact bind_of_failed ran _
  · refine (bind_of_ok ran _).trans ?_
    change (Run.after ⟨some (f value, behind), none⟩ failure) = _
    simp [Run.after, Run.map]

theorem discard_apply (parser : Parser α) (cursor : Cursor) :
    (discard parser) cursor = (parser cursor).map fun _ => () :=
  map_apply _ parser cursor

theorem optional_of_ok (ran : first cursor = ⟨some (value, behind), failure⟩) :
    (optional first) cursor = ⟨some (some value, behind), failure⟩ := by
  have mapped : (some <$> first) cursor = ⟨some (some value, behind), failure⟩ := by
    rw [map_apply, ran]
    rfl
  exact orElse_of_ok mapped _

theorem optional_of_failed (failed : first cursor = ⟨none, failure⟩) :
    (optional first) cursor = ⟨some (none, cursor), failure⟩ := by
  have mapped : (some <$> first) cursor = ⟨none, failure⟩ := by
    rw [map_apply, failed]
    rfl
  refine (orElse_of_failed mapped _).trans ?_
  simp [Run.after, pure_apply]

theorem id_map_apply (parser : Parser α) (cursor : Cursor) :
    (id <$> parser) cursor = parser cursor := by
  rw [map_apply]
  rcases parser cursor with ⟨_ | ⟨value, behind⟩, failure⟩
  · rfl
  · rfl

theorem pure_bind_apply (value : α) (next : α → Parser β) (cursor : Cursor) :
    (pure value >>= next) cursor = next value cursor :=
  (bind_of_ok (pure_apply value cursor) next).trans (Run.after_none _)

theorem bind_assoc_apply {γ : Type} (parser : Parser α) (next : α → Parser β)
    (last : β → Parser γ) (cursor : Cursor) :
    (parser >>= next >>= last) cursor = (parser >>= fun value => next value >>= last) cursor := by
  rcases ran : parser cursor with ⟨_ | ⟨value, behind⟩, failure⟩
  · rw [bind_of_failed ran, bind_of_failed (bind_of_failed ran next)]
  · rw [bind_of_after (bind_of_ok ran next), bind_of_ok ran]

instance : LawfulMonad Parser := LawfulMonad.mk' Parser
  (fun parser => funext (id_map_apply parser))
  (fun value next => funext (pure_bind_apply value next))
  (fun parser next last => funext (bind_assoc_apply parser next last))

/-! ## Repetitions -/

variable {round : Parser (Option α)}

theorem rounds_of_none (ran : round cursor = ⟨some (none, behind), failure⟩) :
    rounds round cursor = ⟨some ([], behind), failure⟩ := by
  rw [rounds, ran]

theorem rounds_of_some (ran : round cursor = ⟨some (some value, behind), failure⟩)
    (shorter : behind.rest.length < cursor.rest.length) :
    rounds round cursor = ((rounds round behind).map (value :: ·)).after failure := by
  rw [rounds, ran]
  exact if_pos shorter

variable {item : Parser α}

theorem repeated_of_failed (failed : item cursor = ⟨none, failure⟩) :
    repeated item cursor = ⟨some ([], cursor), failure⟩ :=
  rounds_of_none (optional_of_failed failed)

theorem repeated_of_ok (ran : item cursor = ⟨some (value, behind), failure⟩)
    (shorter : behind.rest.length < cursor.rest.length) :
    repeated item cursor = ((repeated item behind).map (value :: ·)).after failure :=
  rounds_of_some (optional_of_ok ran) shorter

theorem repeatedOnce_of_failed (failed : item cursor = ⟨none, failure⟩) :
    repeatedOnce item cursor = ⟨none, failure⟩ :=
  bind_of_failed failed _

theorem repeatedOnce_of_ok (ran : item cursor = ⟨some (value, behind), failure⟩) :
    repeatedOnce item cursor = ((repeated item behind).map (value :: ·)).after failure := by
  refine (bind_of_ok ran _).trans ?_
  congr 1
  exact map_apply _ _ _

end Parser

end Cyk.Definition
