import Cyk.Proofs.Definition.Comparison

/-!
# How separators and the end are parsed

Line ends with blanks and comments before them, semicolons, and what may stand behind the last
statement.  A comment that runs to the end of the text is no line end: it is gone back and belongs
to the end.
-/

namespace Cyk.Definition

open Text Cyk.Definition.Parser

/-! ## Line ends -/

section LineEnds

variable {cursor start behind : Cursor} {place : Place} {c : Char} {front gap : List Char}

/-- Line ends, comments and semicolons are understood at a place; semicolons only where no blanks
come before them. -/
structure SeparatesAt (place : Place) (cursor start : Cursor) : Prop where
  lineEnd : ∀ c ∈ start.rest.head?, isLineEnd c = true →
    place.next start.offset c = some .margin
  comment : '#' ∈ start.rest.head? → place.next start.offset '#' = some .comment
  semicolon : start = cursor → ';' ∈ start.rest.head? →
    place.next start.offset ';' = some .margin

/-- What is read behind a separator comes after the statement before it. -/
def Leads (place : Place) (start behind : Cursor) : Prop :=
  readAt place start = (place.statement?.toList ++ ·) <$> readAt .margin behind

theorem readAt_comment (passes : cursor.Passes front behind)
    (within : ∀ c ∈ front, isReturn c = false) :
    readAt .comment cursor = readAt .comment behind := by
  induction front generalizing cursor with
  | nil => rw [passes.eq_of_nil]
  | cons c front ih =>
    rcases List.forall_mem_cons.mp within with ⟨here, others⟩
    rcases passes.uncons with ⟨rest, whole, later⟩
    have stays : Place.next cursor.offset c .comment = some .comment :=
      Place.next_comment_eq_some_iff.mpr (Or.inr ⟨here, rfl⟩)
    rw [whole, readAt_between stays rfl, ← ih later others]
    exact id_map' _

theorem leads_of_single (passes : cursor.Passes [c] behind)
    (allowed : place.next cursor.offset c = some .margin) : Leads place cursor behind := by
  rcases passes.uncons with ⟨rest, whole, later⟩
  rw [Leads, whole, readAt_between allowed rfl, later.eq_of_nil]

/-- A line end is parsed, and reading comes to the margin behind it. -/
theorem newline_parsed (ends : ¬ cursor.Stops isLineEnd) :
    ∃ front behind, newline cursor = ⟨some ((), behind), none⟩ ∧ cursor.Passes front behind ∧
      front ≠ [] ∧ ∀ place : Place,
        (∀ c ∈ cursor.rest.head?, isLineEnd c = true →
          place.next cursor.offset c = some .margin) → Leads place cursor behind := by
  rcases cursor with ⟨offset, _ | ⟨c, rest⟩⟩
  · exact absurd (fun _ => nofun) ends
  have ends : isLineEnd c = true := by
    apply Bool.not_eq_false _ |>.mp
    exact fun other => ends (Cursor.stops_of_head rfl other)
  by_cases pair : c = '\r' ∧ rest.head? = some '\n'
  · rcases pair with ⟨rfl, first⟩
    cases rest with
    | nil => contradiction
    | cons d rest =>
      obtain rfl : d = '\n' := Option.some_inj.mp first
      refine ⟨['\r', '\n'], ⟨offset + 2, rest⟩, newline_pair, ⟨rfl, rfl⟩, List.cons_ne_nil _ _, ?_⟩
      intro place allowed
      have again : Place.next (offset + Char.utf8Size '\r') '\n' .margin = some .margin :=
        Reads.separates_margin.lineEnd _ '\n' rfl
      rw [Leads, readAt_between (allowed '\r' rfl rfl) rfl, readAt_between again rfl]
      exact congrArg _ (id_map' _)
  · exact ⟨[c], _, newline_single ends pair, .single, List.cons_ne_nil _ _,
      fun place allowed => leads_of_single .single (allowed c rfl ends)⟩

/-- What is read behind a comment and the end of its line. -/
theorem leads_of_comment {body : List Char} {ended : Cursor}
    (commented : start.Passes ('#' :: body) ended) (within : ∀ c ∈ body, isReturn c = false)
    (closes : Leads .comment ended behind) (allowed : place.next start.offset '#' = some .comment) :
    Leads place start behind := by
  rcases commented.uncons with ⟨rest, whole, passes⟩
  rw [Leads, whole, readAt_between allowed rfl, readAt_comment passes within, closes]
  exact congrArg _ (id_map' _)

/-- Where a comment runs to the end of the text, the statement before it is the last. -/
theorem readAt_lastComment {body : List Char} (commented : start.Passes ('#' :: body) behind)
    (within : ∀ c ∈ body, isReturn c = false) (empty : behind.rest = [])
    (allowed : place.next start.offset '#' = some .comment) :
    readAt place start = .ok place.statement?.toList := by
  rcases commented.uncons with ⟨rest, whole, passes⟩
  have nothing : readAt .comment behind = .ok [] := by
    rw [readAt, empty]
    rfl
  rw [whole, readAt_between allowed rfl, readAt_comment passes within, nothing]
  exact congrArg Except.ok (List.append_nil _)

/-- What is missing where a line should end. -/
def Cursor.withoutLineEnd (cursor : Cursor) : List Expectation :=
  Expectation.join [cursor.lacking .blank .anything]
    (Expectation.join [.character '#'] [.lineEnd])

theorem lineEnd_apply {middle : Cursor} {commented : Option Unit} {failure : Option SyntaxError}
    {before : Option SyntaxError} (blanks : inlineBlanks cursor = ⟨some ((), start), before⟩)
    (ran : (optional comment) start = ⟨some (commented, middle), failure⟩) :
    Parser.lineEnd cursor = ((newline middle).after failure).after before := by
  have discarded : (discard (optional comment)) start = ⟨some ((), middle), failure⟩ := by
    rw [discard_apply, ran]
    rfl
  exact (bind_of_ok blanks _).trans (by rw [bind_of_ok discarded])

theorem lineEnd_of_stops (passes : cursor.Passes gap start)
    (blank : ∀ c ∈ gap, isInlineBlank c = true) (unblank : start.Stops isInlineBlank)
    (uncommented : start.Stops (· == '#')) (unended : start.Stops isLineEnd) :
    Parser.lineEnd cursor = ⟨none, some (start.missing start.withoutLineEnd)⟩ := by
  rw [lineEnd_apply (inlineBlanks_of_passes passes blank unblank)
    (optional_of_failed (comment_of_stops uncommented)), newline_of_stops unended]
  simp [Run.after, Cursor.withoutLineEnd]

/-- The end of a line is parsed, with blanks and a comment before it; or a comment runs to the end
of the text; or something else comes. -/
theorem lineEnd_parsed (passes : cursor.Passes gap start)
    (blank : ∀ c ∈ gap, isInlineBlank c = true) (unblank : start.Stops isInlineBlank) :
    (∃ behind failure, Parser.lineEnd cursor = ⟨some ((), behind), failure⟩ ∧
        Awaits failure behind [] ∧ start.offset < behind.offset ∧
        ∀ place, SeparatesAt place cursor start → Leads place start behind) ∨
      (∃ body ended failure, Parser.lineEnd cursor = ⟨none, failure⟩ ∧
        start.Passes ('#' :: body) ended ∧ (∀ c ∈ body, isReturn c = false) ∧
        ended.rest = []) ∨
      start.Stops (· == '#') ∧ start.Stops isLineEnd ∧
        Parser.lineEnd cursor = ⟨none, some (start.missing start.withoutLineEnd)⟩ := by
  have blanks := inlineBlanks_of_passes passes blank unblank
  rcases start.stops_or_passes '#' with none | ⟨inside, opens⟩
  · by_cases stops : start.Stops isLineEnd
    · exact Or.inr (Or.inr ⟨none, stops, lineEnd_of_stops passes blank unblank none stops⟩)
    · left
      have parsed := lineEnd_apply blanks (optional_of_failed (comment_of_stops none))
      rcases newline_parsed stops with ⟨front, behind, ran, passes, nonempty, leads⟩
      rw [ran] at parsed
      have forward := passes.offset_lt nonempty
      refine ⟨behind, _, parsed, ?_, forward, fun place separates => leads place separates.lineEnd⟩
      exact Awaits.missing.nil_merge forward (Awaits.missing.nil_merge forward Awaits.none)
  · rcases Cursor.exists_longest (!isReturn ·) inside with ⟨body, ended, passes, all, stops⟩
    have within : ∀ c ∈ body, isReturn c = false := by simpa using all
    have whole : start.Passes ('#' :: body) ended := opens.trans passes
    have parsed := lineEnd_apply blanks (optional_of_ok (comment_of_passes whole within stops))
    by_cases none : ended.rest = []
    · right; left
      have unended : ended.Stops isLineEnd := by simp [Cursor.Stops, none]
      rw [newline_of_stops unended] at parsed
      exact ⟨body, ended, _, parsed, whole, within, none⟩
    · left
      have returns : ∀ c ∈ ended.rest.head?, isReturn c = true := by
        simpa [Cursor.Stops] using stops
      have ends : ¬ ended.Stops isLineEnd := by
        rcases ended with ⟨offset, _ | ⟨c, rest⟩⟩
        · contradiction
        · exact fun unended => absurd (isLineEnd_of_isReturn (returns c rfl))
            (Bool.eq_false_iff.mp (unended c rfl))
      rcases newline_parsed ends with ⟨front, behind, ran, passesEnd, nonempty, leads⟩
      rw [ran] at parsed
      have closes : Leads .comment ended behind := leads .comment fun c first _ =>
        Place.next_comment_eq_some_iff.mpr (Or.inl ⟨returns c first, rfl⟩)
      have forward := passesEnd.offset_lt nonempty
      have further := (whole.trans passesEnd).offset_lt (List.cons_ne_nil _ _)
      exact ⟨behind, _, parsed,
        Awaits.missing.nil_merge further (Awaits.missing.nil_merge forward Awaits.none), further,
        fun place separates =>
          leads_of_comment whole within closes (separates.comment whole.head)⟩

/-- What is missing where neither a line end nor a semicolon is. -/
def Cursor.withoutSeparator (cursor start : Cursor) : List Expectation :=
  if start = cursor then Expectation.join start.withoutLineEnd [.character ';']
  else start.withoutLineEnd

theorem separatorItem_of_stops (passes : cursor.Passes gap start)
    (blank : ∀ c ∈ gap, isInlineBlank c = true) (unblank : start.Stops isInlineBlank)
    (uncommented : start.Stops (· == '#')) (unended : start.Stops isLineEnd)
    (unseparated : cursor.Stops (· == ';')) :
    ∃ failure, separatorItem cursor = ⟨none, failure⟩ ∧
      Awaits failure start (cursor.withoutSeparator start) := by
  have failed := lineEnd_of_stops passes blank unblank uncommented unended
  refine ⟨_, (orElse_of_failed failed _).trans
    (by rw [just_of_stops [] unseparated]; rfl), ?_⟩
  by_cases same : start = cursor
  · rw [Cursor.withoutSeparator, if_pos same]
    subst same
    exact Awaits.missing.merge Awaits.missing
  · have forward : cursor.offset < start.offset := by
      apply passes.offset_lt
      rintro rfl
      exact same passes.eq_of_nil
    have early : Awaits (some (cursor.missing [.character ';'])) start [] :=
      Awaits.missing.of_lt forward
    have merged := (Awaits.missing : Awaits _ start start.withoutLineEnd).merge early
    rw [Cursor.withoutSeparator, if_neg same]
    rwa [Expectation.join_nil] at merged

/-- One of the signs that separate statements is parsed, or a comment runs to the end of the text,
or something else comes. -/
theorem separatorItem_parsed (passes : cursor.Passes gap start)
    (blank : ∀ c ∈ gap, isInlineBlank c = true) (unblank : start.Stops isInlineBlank) :
    (∃ behind failure, separatorItem cursor = ⟨some ((), behind), failure⟩ ∧
        Awaits failure behind [] ∧ start.offset < behind.offset ∧
        ∀ place, SeparatesAt place cursor start → Leads place start behind) ∨
      (∃ body ended failure, separatorItem cursor = ⟨none, failure⟩ ∧
        start.Passes ('#' :: body) ended ∧ (∀ c ∈ body, isReturn c = false) ∧
        ended.rest = []) ∨
      start.Stops (· == '#') ∧ start.Stops isLineEnd ∧ cursor.Stops (· == ';') ∧
        ∃ failure, separatorItem cursor = ⟨none, failure⟩ ∧
          Awaits failure start (cursor.withoutSeparator start) := by
  rcases lineEnd_parsed passes blank unblank with
    ⟨behind, failure, ran, awaits, forward, leads⟩ |
      ⟨body, ended, failure, failed, passes', within, none⟩ | ⟨uncommented, unended, failed⟩
  · exact Or.inl ⟨behind, failure, orElse_of_ok ran _, awaits, forward, leads⟩
  · right; left
    have unseparated : cursor.Stops (· == ';') := by
      cases gap with
      | nil =>
        rw [passes.eq_of_nil] at passes'
        exact Cursor.stops_of_head passes'.head (by decide)
      | cons c gap =>
        apply Cursor.stops_of_head passes.head
        apply beq_eq_false_iff_ne.mpr
        rintro rfl
        exact absurd (blank ';' List.mem_cons_self) (by decide)
    refine ⟨body, ended, failure.merge SyntaxError.merge (some (cursor.missing [.character ';'])),
      ?_, passes', within, none⟩
    rw [separatorItem, orElse_of_failed failed, just_of_stops [] unseparated]
    rfl
  · rcases cursor.stops_or_passes ';' with unseparated | ⟨behind, closes⟩
    · exact Or.inr (Or.inr ⟨uncommented, unended, unseparated,
        separatorItem_of_stops passes blank unblank uncommented unended unseparated⟩)
    · left
      obtain rfl : start = cursor := by
        cases gap with
        | nil => exact passes.eq_of_nil
        | cons c gap =>
          have first := passes.head
          rw [Option.mem_def.mp closes.head] at first
          cases first
          exact absurd (blank ';' List.mem_cons_self) (by decide)
      have forward : start.offset < behind.offset := closes.offset_lt (List.cons_ne_nil _ _)
      refine ⟨behind, some (start.missing start.withoutLineEnd), ?_, Awaits.missing.of_lt forward,
        forward, fun place separates =>
          leads_of_single closes (separates.semicolon rfl closes.head)⟩
      rw [separatorItem, orElse_of_failed failed, just_of_passes closes]
      simp [Run.after]

end LineEnds

/-! ## The end of a definition -/

/-- What may stand behind the last statement. -/
def closing {α : Type} (value : α) : Parser α := do
  inlineBlanks
  discard (optional comment)
  endOfInput
  return value

/-- What is missing where a definition does not end. -/
def Cursor.withoutEnd (cursor : Cursor) : List Expectation :=
  Expectation.join [cursor.lacking .blank .anything]
    (Expectation.join [.character '#'] [.endOfInput])

section Closing

variable {α : Type} {cursor start ended : Cursor} {gap body : List Char}

theorem closing_apply (value : α) {commented : Option Unit} {before failure : Option SyntaxError}
    (blanks : inlineBlanks cursor = ⟨some ((), start), before⟩)
    (ran : (optional comment) start = ⟨some (commented, ended), failure⟩) :
    closing value cursor =
      (((endOfInput >>= fun _ => pure value) ended).after failure).after before := by
  have discarded : (discard (optional comment)) start = ⟨some ((), ended), failure⟩ := by
    rw [discard_apply, ran]
    rfl
  exact (bind_of_ok blanks _).trans (by rw [bind_of_ok discarded])

theorem endOfInput_of_nil (empty : ended.rest = []) :
    endOfInput ended = ⟨some ((), ended), none⟩ := by
  simp [endOfInput, empty]

theorem closing_of_comment (value : α) (passes : cursor.Passes gap start)
    (blank : ∀ c ∈ gap, isInlineBlank c = true) (unblank : start.Stops isInlineBlank)
    (commented : start.Passes ('#' :: body) ended) (within : ∀ c ∈ body, isReturn c = false)
    (empty : ended.rest = []) :
    ∃ failure, closing value cursor = ⟨some (value, ended), failure⟩ := by
  have stops : ended.Stops (!isReturn ·) := by simp [Cursor.Stops, empty]
  have parsed := closing_apply value (inlineBlanks_of_passes passes blank unblank)
    (optional_of_ok (comment_of_passes commented within stops))
  rw [bind_of_ok (endOfInput_of_nil empty)] at parsed
  exact ⟨_, parsed⟩

theorem closing_of_nil (value : α) (passes : cursor.Passes gap start)
    (blank : ∀ c ∈ gap, isInlineBlank c = true) (empty : start.rest = []) :
    ∃ failure, closing value cursor = ⟨some (value, start), failure⟩ := by
  have stops : ∀ inKind, start.Stops inKind := by simp [Cursor.Stops, empty]
  have parsed := closing_apply value (inlineBlanks_of_passes passes blank (stops _))
    (optional_of_failed (comment_of_stops (stops _)))
  rw [bind_of_ok (endOfInput_of_nil empty)] at parsed
  exact ⟨_, parsed⟩

theorem closing_of_stops (value : α) (passes : cursor.Passes gap start)
    (blank : ∀ c ∈ gap, isInlineBlank c = true) (unblank : start.Stops isInlineBlank)
    (uncommented : start.Stops (· == '#')) (more : start.rest ≠ []) :
    closing value cursor = ⟨none, some (start.missing start.withoutEnd)⟩ := by
  have failed : endOfInput start = ⟨none, some (start.missing [.endOfInput])⟩ := by
    simp [endOfInput, more]
  rw [closing_apply value (inlineBlanks_of_passes passes blank unblank)
    (optional_of_failed (comment_of_stops uncommented)), bind_of_failed failed]
  simp [Run.after, Cursor.withoutEnd]

end Closing

end Cyk.Definition
