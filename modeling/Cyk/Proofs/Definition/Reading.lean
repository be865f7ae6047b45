import Cyk.Proofs.Definition.Forward
import Cyk.Proofs.Definition.Separators
import Cyk.Proofs.Definition.Statements

/-!
# Parsing and reading agree

The parser of whole definitions gives what reading from place to place gives: the same statements,
or one error, the same one.  The induction is on what is left of the text at a margin: a separator
leads to the next margin, and so does a statement with a separator behind it.
-/

namespace Cyk.Definition

open Text Cyk.Definition.Parser

/-! ## What is left of a definition -/

/-- The rest of a definition from the margin on. -/
def atMargin : Parser (List Statement) :=
  separatedBehind separatorItem (padded statement) >>= closing

/-- The rest of a definition where a statement may begin. -/
def atStatement : Parser (List Statement) :=
  itemsBehind separator (padded statement) >>= closing

/-- The rest of a definition behind a statement. -/
def behindStatement : Parser (List Statement) :=
  separatedAfter separator (padded statement) true >>= closing

theorem closing_map {α β : Type} (f : α → β) (value : α) :
    closing (f value) = f <$> closing value := by
  simp [closing, map_bind]

section Rest

variable {cursor behind : Cursor} {failure : Option SyntaxError}

theorem rules_apply (cursor : Cursor) : rules cursor = atMargin cursor := by
  have same : separated separator (padded statement) cursor =
      (separatedBehind separatorItem (padded statement) cursor).after none := by
    rw [Run.after_none]
    exact separated_apply consumes_separatorItem (padded statement) cursor
  exact (bind_of_after same closing).trans (Run.after_none _)

theorem atMargin_of_ok (ran : separatorItem cursor = ⟨some ((), behind), failure⟩) :
    atMargin cursor = (atMargin behind).after failure := by
  have shorter := consumes_separatorItem cursor () behind (by rw [ran])
  have signs : (discard (repeated separatorItem)) cursor =
      ((discard (repeated separatorItem)) behind).after failure := by
    rw [discard_apply, discard_apply, repeated_of_ok ran shorter, Run.map_after, Run.map_map]
  exact bind_of_after (bind_of_after signs _) closing

theorem atMargin_of_failed (failed : separatorItem cursor = ⟨none, failure⟩) :
    atMargin cursor = (atStatement cursor).after failure := by
  have signs : (discard (repeated separatorItem)) cursor = ⟨some ((), cursor), failure⟩ := by
    rw [discard_apply, repeated_of_failed failed]
    rfl
  exact bind_of_after (bind_of_ok signs _) closing

theorem atStatement_of_failed (failed : padded statement cursor = ⟨none, failure⟩) :
    atStatement cursor = (closing [] cursor).after failure :=
  bind_of_ok (itemsBehind_of_failed failed) closing

theorem atStatement_of_ok {first : Statement}
    (ran : padded statement cursor = ⟨some (first, behind), failure⟩) :
    atStatement cursor = ((behindStatement behind).map (first :: ·)).after failure := by
  have items := itemsBehind_of_ok consumes_separatorItem (forward_padded forward_statement) ran
  have mapped : ((first :: ·) <$> separatedAfter separator (padded statement) true >>= closing) =
      (first :: ·) <$> behindStatement := by
    simp [behindStatement, map_bind, closing_map]
  rw [← map_apply] at items
  rw [← map_apply, ← mapped]
  exact bind_of_after items closing

theorem behindStatement_of_ok (ran : separatorItem cursor = ⟨some ((), behind), failure⟩) :
    behindStatement cursor = (atMargin behind).after failure :=
  bind_of_after (separatedAfter_of_ok consumes_separatorItem (forward_padded forward_statement) ran)
    closing

theorem behindStatement_of_failed (failed : separatorItem cursor = ⟨none, failure⟩) :
    behindStatement cursor = (closing [] cursor).after failure :=
  bind_of_ok (separatedAfter_of_failed failed _) closing

end Rest

/-! ## Agreement -/

/-- A run to the end of a text has come to what reading gives. -/
def Agrees (run : Run (List Statement)) : Except SyntaxError (List Statement) → Prop
  | .ok statements => ∃ behind failure, run = ⟨some (statements, behind), failure⟩ ∧
      behind.rest = []
  | .error error => run = ⟨none, some error⟩

section Agreement

variable {cursor start behind last : Cursor} {place : Place} {failure found : Option SyntaxError}
  {expected : List Expectation} {gap : List Char} {run : Run (List Statement)}
  {answer : Except SyntaxError (List Statement)}

theorem Agrees.map (f : List Statement → List Statement) (agrees : Agrees run answer) :
    Agrees (run.map f) (f <$> answer) := by
  cases answer with
  | error error =>
    rw [Agrees] at agrees
    rw [agrees]
    rfl
  | ok statements =>
    rcases agrees with ⟨behind, failure, rfl, none⟩
    exact ⟨behind, failure, rfl, none⟩

/-- The text ends at the place, or it goes on with something that neither separates statements nor
ends the definition. -/
theorem agrees_closing (passes : cursor.Passes gap start)
    (blank : ∀ c ∈ gap, isInlineBlank c = true) (unblank : start.Stops isInlineBlank)
    (uncommented : start.Stops (· == '#'))
    (awaits : Awaits failure start expected) (mayEnd : place.mayEnd = true)
    (refused : ∀ c ∈ start.rest.head?, place.next start.offset c = none)
    (expected_eq : start.rest ≠ [] →
      place.expected false = Expectation.join expected start.withoutEnd) :
    Agrees ((closing place.statement?.toList cursor).after failure) (readAt place start) := by
  by_cases none : start.rest = []
  · rcases closing_of_nil place.statement?.toList passes blank none with ⟨later, ran⟩
    have ends : readAt place start = .ok place.statement?.toList := by
      rw [readAt, none, readFrom, if_pos mayEnd]
    rw [ends, ran]
    exact ⟨start, failure.merge SyntaxError.merge later, rfl, none⟩
  · have refuses : readAt place start = .error (start.missing (place.expected false)) := by
      rw [readAt_refused refused fun empty => absurd empty none, List.isEmpty_eq_false_iff.mpr none]
    have asked := awaits.merge (Awaits.missing : Awaits _ start start.withoutEnd)
    have nonempty : Expectation.join expected start.withoutEnd ≠ [] :=
      Expectation.join_ne_nil _ (Expectation.join_ne_nil _ (List.cons_ne_nil _ _))
    rw [refuses, expected_eq none, closing_of_stops _ passes blank unblank uncommented none,
      Run.after_failed, asked.eq_missing nonempty, Agrees]

/-- From a margin on, the parser and reading agree. -/
def MarginAgrees (cursor : Cursor) : Prop :=
  ∀ failure, Awaits failure cursor [] →
    Agrees ((atMargin cursor).after failure) (readAt .margin cursor)

/-! ## Behind a statement -/

theorem Done.separates {said : Statement} (done : Done said cursor place expected) :
    SeparatesAt place cursor cursor where
  lineEnd c first ends := by
    rw [done.next_eq c first]
    exact Place.separated_eq_some_iff.mpr (Or.inl ⟨Or.inl ends, rfl⟩)
  comment first := by
    rw [done.next_eq '#' first]
    exact Place.separated_eq_some_iff.mpr (Or.inr ⟨rfl, rfl⟩)
  semicolon _ first := by
    rw [done.next_eq ';' first]
    exact Place.separated_eq_some_iff.mpr (Or.inl ⟨Or.inr rfl, rfl⟩)

theorem Done.mayEnd {said : Statement} (done : Done said cursor place expected) :
    place.mayEnd = true := by
  have complete := done.statement_eq
  cases place with
  | rightName | afterSymbol | startName | afterStartName => rfl
  | _ => contradiction

theorem following_eq (more : cursor.rest ≠ []) :
    Expectation.join (cursor.withoutSeparator cursor) cursor.withoutEnd = following := by
  rcases cursor with ⟨offset, _ | ⟨c, rest⟩⟩
  · contradiction
  · simp [Cursor.withoutSeparator, Cursor.withoutLineEnd, Cursor.withoutEnd, following,
      Cursor.lacking, Expectation.join]

theorem agrees_behindStatement {said : Statement} (done : Done said cursor place expected)
    (awaits : Awaits failure cursor expected)
    (later : ∀ behind : Cursor, behind.rest.length < cursor.rest.length → MarginAgrees behind) :
    Agrees (((behindStatement cursor).map (said :: ·)).after failure) (readAt place cursor) := by
  have noGap : ∀ c ∈ ([] : List Char), isInlineBlank c = true := List.forall_mem_nil _
  rcases separatorItem_parsed .nil noGap done.unblank with
    ⟨behind, found, ran, awaitsFound, forward, leads⟩ |
      ⟨body, ended, found, failed, commented, within, ends⟩ |
        ⟨uncommented, unended, unseparated, found, failed, awaitsFound⟩
  · have shorter := consumes_separatorItem cursor () behind (by rw [ran])
    have agrees := later behind shorter _ (awaits.nil_merge forward awaitsFound)
    have answer : readAt place cursor = (said :: ·) <$> readAt .margin behind := by
      rw [leads place done.separates, done.statement_eq]
      rfl
    rw [answer, behindStatement_of_ok ran, Run.map_after, Run.after_after, ← Run.map_after]
    exact agrees.map _
  · rcases closing_of_comment ([] : List Statement) .nil noGap done.unblank commented within ends
      with ⟨closed, ran⟩
    have answer : readAt place cursor = .ok [said] := by
      rw [readAt_lastComment commented within ends (done.separates.comment commented.head),
        done.statement_eq]
      rfl
    rw [answer, behindStatement_of_failed failed, ran]
    exact ⟨ended, _, rfl, ends⟩
  · have refused : ∀ c ∈ cursor.rest.head?, place.next cursor.offset c = none := by
      intro c first
      rw [done.next_eq c first]
      simp [Place.separated, uncommented c first, unended c first, unseparated c first]
    have agrees := agrees_closing .nil noGap done.unblank uncommented (awaits.merge awaitsFound)
      done.mayEnd refused fun more => by
        rw [done.expected_eq more, Expectation.join_assoc, following_eq more]
    have single : closing place.statement?.toList cursor = (closing [] cursor).map (said :: ·) := by
      rw [done.statement_eq, ← map_apply, ← closing_map]
      rfl
    rwa [single, ← Run.after_after, ← Run.map_after, ← behindStatement_of_failed failed] at agrees

/-! ## At a margin -/

/-- What is missing where a statement should begin. -/
def Cursor.withoutStatement (cursor : Cursor) : List Expectation :=
  Expectation.join [cursor.lacking .blank .anything]
    (Expectation.join [.character 's'] [cursor.lacking .identifier .anything])

/-- A place where a statement may begin, behind the blanks at a margin. -/
structure Opens (place : Place) (cursor start : Cursor) : Prop where
  reads : readAt .margin cursor = readAt place start
  separates : SeparatesAt place cursor start
  begins : BeginsName place .leftName
  statement_eq : place.statement? = none
  mayEnd : place.mayEnd = true
  refused : cursor.Stops (· == ';') → ∀ c ∈ start.rest.head?,
    Place.opening start.offset c = none → place.next start.offset c = none
  expected_eq : start.rest ≠ [] → place.expected false = Expectation.join
    (Expectation.join (cursor.withoutSeparator start) start.withoutStatement) start.withoutEnd

theorem opens_margin (cursor : Cursor) : Opens .margin cursor cursor where
  reads := rfl
  separates := ⟨fun c _ ends => Reads.separates_margin.lineEnd _ c ends,
    fun _ => Reads.separates_margin.comment _,
    fun _ _ => Place.next_margin_eq_some_iff.mpr (Or.inl ⟨rfl, rfl⟩)⟩
  begins := Reads.beginsName_margin
  statement_eq := rfl
  mayEnd := rfl
  refused := by
    intro unseparated c first none
    simp [Place.next, unseparated c first, none]
  expected_eq := by
    intro more
    rcases cursor with ⟨offset, _ | ⟨c, rest⟩⟩
    · contradiction
    · simp [Place.expected, Cursor.withoutSeparator, Cursor.withoutLineEnd, Cursor.withoutEnd,
        Cursor.withoutStatement, Cursor.lacking, Expectation.join]

theorem opens_indented (passes : cursor.Passes gap start)
    (blank : ∀ c ∈ gap, isInlineBlank c = true) (nonempty : gap ≠ []) :
    Opens .indented cursor start where
  reads := by
    cases gap with
    | nil => exact absurd rfl nonempty
    | cons c gap =>
      rcases List.forall_mem_cons.mp blank with ⟨here, others⟩
      rcases passes.uncons with ⟨rest, whole, later⟩
      have leaves : Place.next cursor.offset c .margin = some .indented :=
        Place.next_margin_eq_some_iff.mpr
          (Or.inr (Place.opening_eq_some_iff.mpr (Or.inl ⟨here, rfl⟩)))
      rw [whole, readAt_within leaves rfl, readAt_blanks Reads.patient_indented later others]
  separates := ⟨fun c _ ends => Reads.separates_indented.lineEnd _ c ends,
    fun _ => Reads.separates_indented.comment _, by
      intro same
      have forward := passes.offset_lt nonempty
      rw [same] at forward
      exact absurd forward (Nat.lt_irrefl _)⟩
  begins := Reads.beginsName_indented
  statement_eq := rfl
  mayEnd := rfl
  refused := fun _ _ _ none => none
  expected_eq := by
    intro more
    have apart : start ≠ cursor := by
      rintro rfl
      exact absurd (passes.offset_lt nonempty) (Nat.lt_irrefl _)
    rcases start with ⟨offset, _ | ⟨c, rest⟩⟩
    · contradiction
    · simp [Place.expected, Cursor.withoutSeparator, Cursor.withoutLineEnd, Cursor.withoutEnd,
        Cursor.withoutStatement, Cursor.lacking, Expectation.join, apart]

theorem exists_opens (passes : cursor.Passes gap start)
    (blank : ∀ c ∈ gap, isInlineBlank c = true) : ∃ place, Opens place cursor start := by
  by_cases none : gap = []
  · rw [none] at passes
    rw [passes.eq_of_nil]
    exact ⟨.margin, opens_margin cursor⟩
  · exact ⟨.indented, opens_indented passes blank none⟩

theorem paddedStatement_of_stops (passes : cursor.Passes gap start)
    (blank : ∀ c ∈ gap, isInlineBlank c = true) (unblank : start.Stops isInlineBlank)
    (unnamed : start.Stops isIdentifierStart) :
    padded statement cursor = ⟨none, some (start.missing start.withoutStatement)⟩ := by
  have unkeyed : start.Stops (· == 's') := by
    intro c first
    apply beq_eq_false_iff_ne.mpr
    rintro rfl
    exact absurd (unnamed 's' first) (by decide)
  have declaration : startDeclaration start = ⟨none, some (start.missing [.character 's'])⟩ :=
    bind_of_failed (just_of_stops _ unkeyed) _
  have failed : statement start = ⟨none, some (start.missing
      (Expectation.join [.character 's'] [start.lacking .identifier .anything]))⟩ := by
    refine (orElse_of_failed declaration _).trans ?_
    rw [rule, bind_of_failed (identifier_of_stops unnamed)]
    simp [Run.after]
  rw [padded_of_failed (inlineBlanks_of_passes passes blank unblank) failed,
    Option.merge_some_some, SyntaxError.merge_missing]
  rfl

/-- Where a parser is stuck, nothing that may follow a statement comes. -/
theorem behindStatement_of_stuck (stop : ∃ c ∈ behind.rest.head?, c = '"' ∨ c = '|') :
    behind.Stops isInlineBlank ∧
      ∃ missing, behindStatement behind = ⟨none, some (behind.missing missing)⟩ := by
  rcases stop with ⟨c, first, sign⟩
  have other : isInlineBlank c = false ∧ (c == '#') = false ∧ isLineEnd c = false ∧
      (c == ';') = false := by
    rcases sign with rfl | rfl
    all_goals decide
  rcases other with ⟨unblank, uncommented, unended, unseparated⟩
  have unblank := Cursor.stops_of_head first unblank
  have uncommented : behind.Stops (· == '#') := Cursor.stops_of_head first uncommented
  have more : behind.rest ≠ [] := by
    intro empty
    rw [empty] at first
    contradiction
  rcases separatorItem_of_stops .nil (List.forall_mem_nil _) unblank uncommented
    (Cursor.stops_of_head first unended) (Cursor.stops_of_head first unseparated) with
    ⟨failure, failed, awaits⟩
  have asked := (awaits.merge (Awaits.missing : Awaits _ behind behind.withoutEnd)).eq_missing
    (Expectation.join_ne_nil _ (Expectation.join_ne_nil _ (List.cons_ne_nil _ _)))
  have closed := closing_of_stops ([] : List Statement) .nil (List.forall_mem_nil _) unblank
    uncommented more
  have stays := behindStatement_of_failed failed
  rw [closed, Run.after_failed, asked] at stays
  exact ⟨unblank, _, stays⟩

/-- A statement begins behind the blanks, or the parser is stuck in it. -/
theorem agrees_atStatement (opens : Opens place cursor start) (passes : cursor.Passes gap start)
    (blank : ∀ c ∈ gap, isInlineBlank c = true) (unblank : start.Stops isInlineBlank)
    (uncommented : start.Stops (· == '#')) {middle ended : Cursor} {letters blanks : List Char}
    (split : NameSplit start middle ended letters blanks)
    (awaits : Awaits failure start expected)
    (later : ∀ behind : Cursor, behind.rest.length < cursor.rest.length → MarginAgrees behind) :
    Agrees ((atStatement cursor).after failure) (readAt .margin cursor) := by
  have asked : Awaits (some (start.missing [start.lacking .blank .anything])) start _ :=
    Awaits.missing
  have opened := inlineBlanks_of_passes passes blank unblank
  rw [opens.reads]
  rcases statement_parsed split fun c _ starts => opens.begins start.offset c starts with
    ⟨said, next, last, found, furthest, ran, blanksLater, ⟨after, more, done, awaitsLast, answer⟩,
      precedes⟩ | ⟨error, failed, furthest, beyond, back⟩
  · have forward := precedes.offset_lt
    have shorter : last.rest.length ≤ cursor.rest.length :=
      Nat.le_trans (Nat.le_of_lt precedes.length_lt) passes.length_le
    have agrees := agrees_behindStatement done
      (awaits.nil_merge forward (asked.nil_merge forward awaitsLast))
      fun behind less => later behind (Nat.lt_of_lt_of_le less shorter)
    rw [answer, atStatement_of_ok (padded_of_ok opened ran blanksLater), Run.after_after]
    exact agrees
  · rcases ran : statement start with ⟨_ | ⟨said, behind⟩, found⟩
    all_goals
      rw [ran] at furthest back
      obtain rfl : found = some error := furthest
    · have more : start.rest ≠ [] :=
        List.ne_nil_of_length_pos (Nat.zero_lt_of_lt split.precedes.length_lt)
      rw [failed, atStatement_of_failed (padded_of_failed opened ran), asked.merge_of_lt beyond,
        closing_of_stops [] passes blank unblank uncommented more, Run.after_failed,
        Awaits.missing.of_lt_merge beyond, Run.after_failed, awaits.merge_of_lt beyond, Agrees]
    · rcases back said behind rfl with ⟨before, stop⟩
      rcases behindStatement_of_stuck stop with ⟨unblankThere, missing, refused⟩
      have taken := padded_of_ok opened ran (inlineBlanks_of_stops unblankThere)
      rw [Awaits.missing.of_lt_merge before, asked.merge_of_lt beyond] at taken
      rw [failed, atStatement_of_ok taken, refused, ← Run.map_after, Run.after_failed,
        Awaits.missing.of_lt_merge before, ← Run.map_after, Run.after_failed,
        awaits.merge_of_lt beyond, Agrees]
      rfl

theorem marginAgrees (cursor : Cursor) : MarginAgrees cursor := by
  induction length : cursor.rest.length using Nat.strongRecOn generalizing cursor with
  | ind n ih =>
    subst length
    intro failure awaits
    rcases Cursor.exists_longest isInlineBlank cursor with ⟨gap, start, passes, blank, unblank⟩
    rcases exists_opens passes blank with ⟨place, opens⟩
    rcases separatorItem_parsed passes blank unblank with
      ⟨behind, found, ran, awaitsFound, forward, leads⟩ |
        ⟨body, ended, found, failed, commented, within, ends⟩ |
          ⟨uncommented, unended, unseparated, found, failed, awaitsFound⟩
    · have shorter := consumes_separatorItem cursor () behind (by rw [ran])
      have answer : readAt .margin cursor = readAt .margin behind := by
        rw [opens.reads, leads place opens.separates, opens.statement_eq]
        exact id_map' _
      rw [answer, atMargin_of_ok ran, Run.after_after]
      exact ih _ shorter behind rfl _
        ((passes.awaits awaits).nil_merge forward awaitsFound)
    · have unnamed : start.Stops isIdentifierStart :=
        Cursor.stops_of_head commented.head (of_mem_signs (by decide)).1
      have answer : readAt .margin cursor = .ok [] := by
        rw [opens.reads, readAt_lastComment commented within ends
          (opens.separates.comment commented.head), opens.statement_eq]
        rfl
      rcases closing_of_comment ([] : List Statement) passes blank unblank commented within ends
        with ⟨closed, ran⟩
      rw [answer, atMargin_of_failed failed,
        atStatement_of_failed (paddedStatement_of_stops passes blank unblank unnamed), ran]
      exact ⟨ended, _, rfl, ends⟩
    · have asked := (passes.awaits awaits).merge awaitsFound
      rw [Expectation.nil_join] at asked
      rw [atMargin_of_failed failed, Run.after_after]
      by_cases unnamed : start.Stops isIdentifierStart
      · have refused : ∀ c ∈ start.rest.head?, place.next start.offset c = none := by
          intro c first
          apply opens.refused unseparated c first
          simp [Place.opening, unblank c first, unended c first, unnamed c first,
            beq_eq_false_iff_ne.mp (uncommented c first)]
        have agrees := agrees_closing passes blank unblank uncommented
          (asked.merge Awaits.missing) opens.mayEnd refused opens.expected_eq
        rw [opens.statement_eq, ← Run.after_after] at agrees
        rw [opens.reads,
          atStatement_of_failed (paddedStatement_of_stops passes blank unblank unnamed)]
        exact agrees
      · rcases exists_nameSplit unnamed with ⟨letters, middle, blanks, ended, split⟩
        exact agrees_atStatement opens passes blank unblank uncommented split asked
          fun behind shorter => ih _ shorter behind rfl

end Agreement

/-! ## Whole definitions -/

theorem rules_agree (definition : String) :
    Agrees (rules ⟨0, definition.toList⟩) (readFrom .margin 0 definition.toList) := by
  have agrees := marginAgrees ⟨0, definition.toList⟩ none Awaits.none
  rwa [Run.after_none, ← rules_apply] at agrees

/-- What comes of a whole definition: its statements and no error, or no statements and the one
error that reading gives. -/
theorem parse_rules (definition : String) :
    rules.parse definition = match readFrom .margin 0 definition.toList with
      | .ok statements => ⟨some statements, []⟩
      | .error error => ⟨none, [error]⟩ := by
  have agrees := rules_agree definition
  cases answer : readFrom .margin 0 definition.toList with
  | ok statements =>
    rw [answer] at agrees
    rcases agrees with ⟨behind, failure, ran, none⟩
    rw [parse, bind_of_ok ran, bind_of_ok (endOfInput_of_nil none)]
    rfl
  | error error =>
    rw [answer] at agrees
    rw [parse, bind_of_failed agrees]
    rfl

theorem parse_eq_ok_iff {definition : String} {statements : List Statement} :
    rules.parse definition = ⟨some statements, []⟩ ↔
      readFrom .margin 0 definition.toList = .ok statements := by
  rw [parse_rules]
  cases readFrom .margin 0 definition.toList with
  | ok found => simp
  | error error => simp

theorem parse_eq_error_iff {definition : String} {error : SyntaxError} :
    rules.parse definition = ⟨none, [error]⟩ ↔
      readFrom .margin 0 definition.toList = .error error := by
  rw [parse_rules]
  cases readFrom .margin 0 definition.toList with
  | ok found => simp
  | error other => simp

/-- There are statements and no error, or there is one error and nothing else. -/
theorem parse_ok_or_error (definition : String) :
    (∃ statements, rules.parse definition = ⟨some statements, []⟩) ∨
      ∃ error, rules.parse definition = ⟨none, [error]⟩ := by
  cases answer : readFrom .margin 0 definition.toList with
  | ok statements => exact Or.inl ⟨statements, parse_eq_ok_iff.mpr answer⟩
  | error error => exact Or.inr ⟨error, parse_eq_error_iff.mpr answer⟩

theorem read_eq_readFrom (definition : String) :
    read definition = readFrom .margin 0 definition.toList := by
  simp only [read, parse_rules]
  cases readFrom .margin 0 definition.toList with
  | ok statements => rfl
  | error error => rfl

end Cyk.Definition
