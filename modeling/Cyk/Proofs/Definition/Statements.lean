import Cyk.Proofs.Definition.RightSides

/-!
# How statements are parsed

A statement is tried as a declaration first.  If that fails, what the keyword and the colon would
have needed is asked for as well, but only where the rule comes no further.
-/

namespace Cyk.Definition

open Text Cyk.Definition.Parser

/-! ## The keyword -/

/-- Characters that are not all there: the first one that is missing counts if it is behind all of
the letters. -/
theorem just_of_not_prefix {target letters : List Char} {cursor middle : Cursor}
    (passes : cursor.Passes letters middle) (stops : ∀ c ∈ middle.rest.head?, c ∉ target)
    (other : ¬ target <+: letters) :
    ∃ failure, just target cursor = ⟨none, failure⟩ ∧
      Awaits failure middle
        ((if letters.isPrefixOf target then target[letters.length]? else none).toList.map
          .character) := by
  induction target generalizing cursor letters with
  | nil => exact absurd List.nil_prefix other
  | cons c target ih =>
    cases letters with
    | nil =>
      obtain rfl : middle = cursor := passes.eq_of_nil
      have differs : middle.Stops (· == c) := by
        intro d first
        apply beq_eq_false_iff_ne.mpr
        rintro rfl
        exact stops d first List.mem_cons_self
      exact ⟨_, just_of_stops target differs, Awaits.missing⟩
    | cons d letters =>
      rcases passes.uncons with ⟨rest, whole, later⟩
      by_cases same : d = c
      · subst same
        have shorter : ¬ target <+: letters :=
          fun isPrefix => other (List.cons_prefix_cons.mpr ⟨rfl, isPrefix⟩)
        have fewer : ∀ c ∈ middle.rest.head?, c ∉ target :=
          fun c first member => stops c first (List.mem_cons_of_mem _ member)
        rcases ih later fewer shorter with ⟨failure, failed, awaits⟩
        refine ⟨failure, ?_, by simpa using awaits⟩
        rw [whole, just_cons_of_passes .single, failed]
      · have differs : cursor.Stops (· == c) :=
          Cursor.stops_of_head passes.head (beq_eq_false_iff_ne.mpr same)
        refine ⟨_, just_of_stops target differs, ?_⟩
        have apart : (d :: letters).isPrefixOf (c :: target) = false := by
          rw [List.isPrefixOf, beq_eq_false_iff_ne.mpr same, Bool.false_and]
        rw [apart]
        exact Awaits.missing.of_lt (passes.offset_lt (List.cons_ne_nil _ _))

section Keyword

variable {cursor middle behind : Cursor} {letters gap : List Char}

theorem continues_of_mem_startKeyword :
    ∀ c ∈ startKeyword.toList, isIdentifierContinue c = true :=
  forall_mem_of_all (by decide +kernel)

/-- What is missing where a colon should be. -/
def Cursor.withoutColon (cursor : Cursor) : List Expectation :=
  Expectation.join [cursor.lacking .blank .anything] [.character ':']

theorem startDeclaration_of_stops {inner : Cursor} {expected : List Expectation}
    (passes : cursor.Passes startKeyword.toList middle)
    (blanks : inlineBlanks middle = ⟨some ((), inner), some (inner.missing expected)⟩)
    (stops : inner.Stops (· == ':')) :
    startDeclaration cursor =
      ⟨none, some (inner.missing (Expectation.join expected [.character ':']))⟩ := by
  have failed := padded_of_failed blanks (just_of_stops [] stops)
  rw [Option.merge_some_some, SyntaxError.merge_missing] at failed
  exact (bind_of_ok (just_of_passes passes) _).trans
    (by rw [bind_of_failed failed, Run.after_none])

theorem keywordLetter?_of_longer (c : Char) (more : List Char) :
    Place.keywordLetter? (String.ofList (startKeyword.toList ++ c :: more)) = none := by
  have apart : (startKeyword.toList ++ c :: more).isPrefixOf startKeyword.toList = false := by
    apply Bool.eq_false_iff.mpr
    intro isPrefix
    have length := (List.isPrefixOf_iff_prefix.mp isPrefix).length_le
    rw [List.length_append] at length
    exact absurd length (Nat.not_le.mpr (Nat.lt_add_of_pos_right (Nat.succ_pos _)))
  rw [Place.keywordLetter?, String.toList_ofList, apart]
  rfl

/-- Where a name only begins like the keyword, the colon is looked for within it. -/
theorem startDeclaration_of_longer {c : Char} {more : List Char}
    (split : NameSplit cursor middle behind (startKeyword.toList ++ c :: more) gap) :
    ∃ failure, startDeclaration cursor = ⟨none, failure⟩ ∧ Awaits failure middle [] := by
  rcases split.name.split with ⟨inner, passes, rest⟩
  have continues : isIdentifierContinue c = true := by
    apply split.continues
    rw [List.tail_append_of_ne_nil (by decide)]
    exact List.mem_append_right _ List.mem_cons_self
  have unblank : inner.Stops isInlineBlank := by
    apply Cursor.stops_of_head rest.head
    apply Bool.eq_false_iff.mpr
    intro blank
    exact absurd continues (Bool.eq_false_iff.mp (of_isInlineBlank blank).2.2.2)
  have uncolon : inner.Stops (· == ':') := by
    apply Cursor.stops_of_head rest.head
    apply beq_eq_false_iff_ne.mpr
    rintro rfl
    exact absurd continues (Bool.eq_false_iff.mp (of_mem_signs (by decide)).2)
  exact ⟨_, startDeclaration_of_stops passes (inlineBlanks_of_stops unblank) uncolon,
    Awaits.missing.of_lt (rest.offset_lt (List.cons_ne_nil _ _))⟩

/-- What a failed declaration asks for where the name is over, or behind the blanks there. -/
theorem startDeclaration_failed (split : NameSplit cursor middle behind letters gap)
    (undeclared : letters = startKeyword.toList → behind.Stops (· == ':')) :
    ∃ failure, startDeclaration cursor = ⟨none, failure⟩ ∧
      (letters = startKeyword.toList →
        Awaits failure behind behind.withoutColon) ∧
      (letters ≠ startKeyword.toList →
        Awaits failure middle
          ((Place.keywordLetter? (String.ofList letters)).toList.map .character)) := by
  by_cases keyword : startKeyword.toList <+: letters
  · rcases keyword with ⟨_ | ⟨c, more⟩, rfl⟩
    · rw [List.append_nil] at split undeclared ⊢
      exact ⟨_, startDeclaration_of_stops split.name split.inlineBlanks_eq (undeclared rfl),
        fun _ => Awaits.missing, fun differs => absurd rfl differs⟩
    · rcases startDeclaration_of_longer split with ⟨failure, failed, awaits⟩
      have longer : startKeyword.toList ++ c :: more ≠ startKeyword.toList := by simp
      rw [keywordLetter?_of_longer]
      exact ⟨failure, failed, fun same => absurd same longer, fun _ => awaits⟩
  · have stops : ∀ c ∈ middle.rest.head?, c ∉ startKeyword.toList := by
      intro c first member
      exact absurd (continues_of_mem_startKeyword c member)
        (Bool.eq_false_iff.mp (split.stops c first))
    rcases just_of_not_prefix split.name stops keyword with ⟨failure, failed, awaits⟩
    refine ⟨failure, bind_of_failed failed _, ?_, ?_⟩
    · rintro rfl
      exact absurd (List.prefix_refl _) keyword
    · intro _
      simpa [Place.keywordLetter?] using awaits

theorem ne_dash_of_keywordLetter? {name : String} {c : Char}
    (next : Place.keywordLetter? name = some c) : c ≠ '-' := by
  rintro rfl
  rw [Place.keywordLetter?] at next
  split at next
  · exact absurd (List.mem_of_getElem? next) (by decide)
  · contradiction

/-- What is asked for behind a name, put together from what a declaration and a rule ask for. -/
theorem expected_of_nameEnds {name : Slice} {after : Place} {first expected : List Expectation}
    (ends : NameEnds .leftName .afterLeftName name middle behind after expected)
    (keyword : name.text = startKeyword → first = behind.withoutColon)
    (inside : name.text ≠ startKeyword → middle = behind →
      first = (Place.keywordLetter? name.text).toList.map .character)
    (outside : name.text ≠ startKeyword → middle.offset < behind.offset → first = []) :
    after.expected behind.rest.isEmpty =
      Expectation.join first (Expectation.join expected [.character '-']) := by
  by_cases same : name.text = startKeyword
  · rw [keyword same]
    cases ends with
    | inside _ =>
      rcases middle with ⟨offset, _ | ⟨c, rest⟩⟩
      · rfl
      · simp [Place.expected, same, Cursor.withoutColon, Cursor.lacking, Expectation.join]
    | outside _ =>
      rcases behind with ⟨offset, _ | ⟨c, rest⟩⟩
      · rfl
      · simp [Place.expected, same, Cursor.withoutColon, Cursor.lacking, Expectation.join]
  · cases ends with
    | inside _ =>
      rw [inside same rfl]
      rcases middle with ⟨offset, _ | ⟨c, rest⟩⟩
      · rfl
      · rcases letter : Place.keywordLetter? name.text with _ | d
        · simp [Place.expected, same, letter, Cursor.lacking, Expectation.join]
        · have differs := (ne_dash_of_keywordLetter? letter).symm
          simp [Place.expected, same, letter, differs, Cursor.lacking, Expectation.join]
    | outside forward =>
      rw [outside same forward]
      rcases behind with ⟨offset, _ | ⟨c, rest⟩⟩
      · rfl
      · simp [Place.expected, same, Cursor.lacking, Expectation.join]

theorem NameEnds.next_eq {name : Slice} {after : Place} {expected : List Expectation}
    (ends : NameEnds .leftName .afterLeftName name middle behind after expected) :
    ∀ c ∈ behind.rest.head?, after.next behind.offset c = Place.afterName name c := by
  intro c first
  cases ends with
  | inside stops => simp [Place.next, stops c first]
  | outside _ => rfl

theorem afterName_eq_none {name : Slice} {c : Char} (unblank : isInlineBlank c = false)
    (undashed : c ≠ '-') (undeclared : name.text = startKeyword → c ≠ ':') :
    Place.afterName name c = none := by
  cases reached : Place.afterName name c with
  | none => rfl
  | some following =>
    rcases Place.afterName_eq_some_iff.mp reached with ⟨blank, _⟩ | ⟨dash, _⟩ | ⟨colon, keyword, _⟩
    · exact absurd blank (Bool.eq_false_iff.mp unblank)
    · exact absurd dash undashed
    · exact absurd colon (undeclared keyword)

theorem rule_of_stops (split : NameSplit cursor middle behind letters gap)
    {expected : List Expectation}
    (awaits : Awaits ((some (middle.missing [middle.lacking .identifier .anything])).merge
      SyntaxError.merge (some (behind.missing [behind.lacking .blank .anything]))) behind expected)
    (stops : behind.Stops (· == '-')) :
    ∃ failure, rule cursor = ⟨none, failure⟩ ∧
      Awaits failure behind (Expectation.join expected [.character '-']) := by
  have failed := padded_of_failed split.inlineBlanks_eq (just_of_stops ['>'] stops)
  refine ⟨_, (bind_of_ok split.identifier_eq _).trans (by rw [bind_of_failed failed]; rfl), ?_⟩
  rw [← SyntaxError.option_merge_assoc]
  exact awaits.merge Awaits.missing

theorem text_eq_startKeyword_iff {offset : Nat} :
    ((Slice.startingAt offset).extend letters).text = startKeyword ↔
      letters = startKeyword.toList := by
  rw [Slice.extend_startingAt_text, ← String.toList_inj, String.toList_ofList]

/-- A failed declaration asks for what the place asks for beyond a rule. -/
theorem startDeclaration_asks (split : NameSplit cursor middle behind letters gap) {after : Place}
    {expected : List Expectation}
    (ends : NameEnds .leftName .afterLeftName ((Slice.startingAt cursor.offset).extend letters)
      middle behind after expected)
    (undeclared : letters = startKeyword.toList → behind.Stops (· == ':')) :
    ∃ failure first, startDeclaration cursor = ⟨none, failure⟩ ∧ Awaits failure behind first ∧
      after.expected behind.rest.isEmpty =
        Expectation.join first (Expectation.join expected [.character '-']) := by
  rcases startDeclaration_failed split undeclared with ⟨failure, failed, asKeyword, asOther⟩
  by_cases same : letters = startKeyword.toList
  · have keyword : ((Slice.startingAt cursor.offset).extend letters).text = startKeyword :=
      text_eq_startKeyword_iff.mpr same
    exact ⟨failure, _, failed, asKeyword same, expected_of_nameEnds ends (fun _ => rfl)
      (fun other => absurd keyword other) (fun other => absurd keyword other)⟩
  · have other : ((Slice.startingAt cursor.offset).extend letters).text ≠ startKeyword :=
      fun keyword => same (text_eq_startKeyword_iff.mp keyword)
    have awaitsLetter := asOther same
    rw [← Slice.extend_startingAt_text cursor.offset letters] at awaitsLetter
    cases ends with
    | inside stops =>
      refine ⟨failure, _, failed, awaitsLetter, expected_of_nameEnds (.inside stops)
        (fun keyword => absurd keyword other) (fun _ _ => rfl) ?_⟩
      exact fun _ forward => absurd forward (Nat.lt_irrefl _)
    | outside forward =>
      refine ⟨failure, _, failed, awaitsLetter.of_lt forward, expected_of_nameEnds
        (.outside forward) (fun keyword => absurd keyword other) ?_ (fun _ _ => rfl)⟩
      rintro _ rfl
      exact absurd forward (Nat.lt_irrefl _)

/-- Where a name is over and neither an arrow nor a colon follows, a declaration and a rule together
ask for what the place asks for. -/
theorem statement_refused (split : NameSplit cursor middle behind letters gap) {after : Place}
    {expected : List Expectation}
    (ends : NameEnds .leftName .afterLeftName ((Slice.startingAt cursor.offset).extend letters)
      middle behind after expected)
    (awaits : Awaits ((some (middle.missing [middle.lacking .identifier .anything])).merge
      SyntaxError.merge (some (behind.missing [behind.lacking .blank .anything]))) behind expected)
    (undashed : behind.Stops (· == '-'))
    (undeclared : letters = startKeyword.toList → behind.Stops (· == ':')) :
    ∃ error, statement cursor = ⟨none, some error⟩ ∧ cursor.offset < error.span.start ∧
      readAt after behind = .error error := by
  rcases startDeclaration_asks split ends undeclared with
    ⟨failure, first, failed, awaitsFirst, expected_eq⟩
  rcases rule_of_stops split awaits undashed with ⟨later, failedLater, awaitsLater⟩
  have asked := (awaitsFirst.merge awaitsLater).eq_missing
    (Expectation.join_ne_nil _ (Expectation.join_ne_nil _ (List.cons_ne_nil _ _)))
  rw [← expected_eq] at asked
  have refused : ∀ c ∈ behind.rest.head?, after.next behind.offset c = none := by
    intro c head
    rw [ends.next_eq c head]
    exact afterName_eq_none (split.unblank c head) (beq_eq_false_iff_ne.mp (undashed c head))
      fun keyword =>
        beq_eq_false_iff_ne.mp (undeclared (text_eq_startKeyword_iff.mp keyword) c head)
  refine ⟨behind.missing (after.expected behind.rest.isEmpty), ?_, split.precedes.offset_lt, ?_⟩
  · refine (orElse_of_failed failed _).trans ?_
    rw [failedLater, Run.after, asked]
  · apply readAt_refused refused
    intro _
    cases ends with
    | inside _ => rfl
    | outside _ => rfl

end Keyword

/-! ## Complete statements -/

/-- What may follow a statement, as it is asked for there. -/
def following : List Expectation :=
  [.blank, .character '#', .lineEnd, .character ';', .endOfInput]

/-- A place behind a statement and its blanks, where only a separator may follow, and what has been
asked for already. -/
structure Done (statement : Statement) (cursor : Cursor) (place : Place)
    (expected : List Expectation) : Prop where
  unblank : cursor.Stops isInlineBlank
  next_eq : ∀ c ∈ cursor.rest.head?, place.next cursor.offset c = Place.separated c
  statement_eq : place.statement? = some statement
  expected_eq : cursor.rest ≠ [] → place.expected false = Expectation.join expected following

/-- The parser and reading are both behind a statement. -/
def Finishes (answer : Except SyntaxError (List Statement)) (statement : Statement)
    (behind : Cursor) (failure : Option SyntaxError) : Prop :=
  ∃ place expected, Done statement behind place expected ∧ Awaits failure behind expected ∧
    answer = readAt place behind

section Done

variable {cursor behind : Cursor} {place : Place} {expected : List Expectation} {rule : OpenRule}

theorem Rests.done (rests : Rests cursor rule place expected)
    (unblank : cursor.Stops isInlineBlank) (unopened : cursor.Stops beginsSymbol)
    (unbarred : cursor.Stops (· == '|')) :
    Done rule.statement cursor place
      (Expectation.join
        (Expectation.join expected (Expectation.join cursor.withoutSymbol cursor.withoutBar))
        [cursor.lacking .blank .anything]) where
  unblank := unblank
  next_eq := by
    intro c first
    rcases Bool.or_eq_false_iff.mp (unopened c first) with ⟨unquoted, unnamed⟩
    have bar : c ≠ '|' := beq_eq_false_iff_ne.mp (unbarred c first)
    rw [rests.next_eq c first]
    simp [Place.continueRule, Place.beginSymbol, unblank c first, bar, unquoted, unnamed]
  statement_eq := by
    cases rests with
    | settled => rfl
    | named _ => rfl
  expected_eq := by
    intro more
    rcases cursor with ⟨offset, _ | ⟨c, rest⟩⟩
    · contradiction
    · cases rests with
      | settled =>
        simp [Place.expected, Place.separators, following, Cursor.withoutSymbol,
          Cursor.withoutBar, Cursor.lacking, Expectation.join]
      | named _ =>
        simp [Place.expected, Place.separators, following, Cursor.withoutSymbol,
          Cursor.withoutBar, Cursor.lacking, Expectation.join]

theorem NameEnds.done {name : Slice} {middle : Cursor}
    (ends : NameEnds .startName .afterStartName name middle behind place expected)
    (unblank : behind.Stops isInlineBlank) : Done (.start name) behind place expected where
  unblank := unblank
  next_eq := by
    intro c first
    cases ends with
    | inside stops => simp [Place.next, stops c first, unblank c first]
    | outside _ => simp [Place.next, unblank c first]
  statement_eq := by
    cases ends with
    | inside _ => rfl
    | outside _ => rfl
  expected_eq := by
    intro more
    rcases behind with ⟨offset, _ | ⟨c, rest⟩⟩
    · contradiction
    · cases ends with
      | inside _ => rfl
      | outside _ => rfl

end Done

/-! ## Rules -/

section Rule

variable {cursor middle behind : Cursor} {letters gap : List Char}

theorem readAt_arrow {name : Slice} {after : Place} {expected : List Expectation}
    (ends : NameEnds .leftName .afterLeftName name middle behind after expected) {inside : Cursor}
    (dash : behind.Passes ['-'] inside) : readAt after behind = readAt (.arrow name) inside := by
  have allowed : after.next behind.offset '-' = some (.arrow name) := by
    rw [ends.next_eq '-' dash.head]
    exact Place.afterName_eq_some_iff.mpr (Or.inr (Or.inl ⟨rfl, rfl⟩))
  exact readAt_single dash allowed rfl

theorem readAt_arrow_refused {name : Slice} (stops : cursor.Stops (· == '>')) :
    readAt (.arrow name) cursor = .error (cursor.missing [.character '>']) := by
  have refused : ∀ c ∈ cursor.rest.head?, Place.next cursor.offset c (.arrow name) = none := by
    intro c first
    simp [Place.next, beq_eq_false_iff_ne.mp (stops c first)]
  exact readAt_refused refused fun _ => rfl

theorem rule_of_brokenArrow (split : NameSplit cursor middle behind letters gap) {inside : Cursor}
    (dash : behind.Passes ['-'] inside) (stops : inside.Stops (· == '>')) :
    rule cursor = ⟨none, some (inside.missing [.character '>'])⟩ := by
  have forward : behind.offset < inside.offset := dash.offset_lt (List.cons_ne_nil _ _)
  have undone : just ['-', '>'] behind = ⟨none, some (inside.missing [.character '>'])⟩ := by
    rw [just_cons_of_passes dash, just_of_stops [] stops]
  have failed : padded (just ['-', '>']) middle =
      ⟨none, some (inside.missing [.character '>'])⟩ := by
    rw [padded_of_failed split.inlineBlanks_eq undone, Awaits.missing.merge_of_lt forward]
  refine (bind_of_ok split.identifier_eq _).trans ?_
  rw [bind_of_failed failed, Run.after,
    Awaits.missing.merge_of_lt (Nat.lt_of_le_of_lt split.offset_le forward)]

/-- A rule whose arrow is there. -/
theorem rule_of_arrow (split : NameSplit cursor middle behind letters gap) {arrow next : Cursor}
    {blanks : List Char} (arrowed : behind.Passes ['-', '>'] arrow)
    (passes : arrow.Passes blanks next) (blank : ∀ c ∈ blanks, isInlineBlank c = true)
    (unblank : next.Stops isInlineBlank) :
    rule cursor = (((separatedOnce (padded (just ['|'])) alternative next).after
      (some (next.missing [next.lacking .blank .anything]))).map
        (.rule ((Slice.startingAt cursor.offset).extend letters) ·)).after
          (some (middle.missing [middle.lacking .identifier .anything])) := by
  have opened := paddedJust_of_passes split.inlineBlanks_eq arrowed (List.cons_ne_nil _ _) passes
    blank unblank
  refine (bind_of_ok split.identifier_eq _).trans ?_
  rw [bind_of_ok opened]
  exact congrArg (fun run : Run Statement => (run.after _).after _) (map_apply _ _ _)

/-- A rule is parsed once its arrow has begun, or the parser is stuck behind that. -/
theorem rule_parsed (split : NameSplit cursor middle behind letters gap) {after : Place}
    {expected : List Expectation}
    (ends : NameEnds .leftName .afterLeftName ((Slice.startingAt cursor.offset).extend letters)
      middle behind after expected)
    {inside : Cursor} (dash : behind.Passes ['-'] inside) :
    (∃ statement last failure, rule cursor = ⟨some (statement, last), failure⟩ ∧
      last.Stops isInlineBlank ∧
      Finishes (readAt after behind) statement last
        (failure.merge SyntaxError.merge
          (some (last.missing [last.lacking .blank .anything]))) ∧
      behind.Precedes last) ∨
      Stuck behind.offset (fun c => c = '"' ∨ c = '|') (rule cursor) (readAt after behind) := by
  rw [readAt_arrow ends dash]
  rcases inside.stops_or_passes '>' with stops | ⟨arrow, head⟩
  · right
    exact Stuck.of_failed (readAt_arrow_refused stops) (rule_of_brokenArrow split dash stops)
      (dash.offset_lt (List.cons_ne_nil _ _))
  · rcases Cursor.exists_longest isInlineBlank arrow with ⟨blanks, next, passes, blank, unblank⟩
    have arrowed : behind.Passes ['-', '>'] arrow := dash.trans head
    have precedes : behind.Precedes next :=
      (arrowed.precedes (List.cons_ne_nil _ _)).trans_passes passes
    have named : Awaits (some (middle.missing [middle.lacking .identifier .anything])) middle _ :=
      Awaits.missing
    rw [readAt_single head (Place.next_arrow_eq_some_iff.mpr ⟨rfl, rfl⟩) rfl,
      readAt_blanks Reads.patient_alternative passes blank,
      rule_of_arrow split arrowed passes blank unblank]
    rcases alternatives_parsed unblank Awaits.missing precedes.offset_lt with
      ⟨alternatives, ended, last, later, ran, said, ⟨place, expected, rests, unblankLast, awaits,
        answer⟩, unopened, unbarred, further⟩ | stuck
    · left
      have onward := precedes.trans further
      rw [ran]
      refine ⟨.rule ((Slice.startingAt cursor.offset).extend letters) alternatives, last, _, rfl,
        unblankLast, ⟨place, _, said ▸ rests.done unblankLast unopened unbarred, ?_, answer⟩,
        onward⟩
      simp only [Run.map]
      rw [SyntaxError.option_merge_assoc]
      exact named.nil_merge (Nat.lt_of_le_of_lt split.offset_le onward.offset_lt)
        (awaits.merge Awaits.missing)
    · exact Or.inr ((stuck.map _).after named split.offset_le)

end Rule

/-! ## Declarations and rules -/

section Statement

variable {cursor middle behind : Cursor} {letters gap : List Char}

theorem readAt_colon_refused (unblank : cursor.Stops isInlineBlank)
    (stops : cursor.Stops isIdentifierStart) :
    readAt .colon cursor = .error (cursor.missing
      (Expectation.join [cursor.lacking .blank .anything]
        [cursor.lacking .identifier .anything])) := by
  have refused : ∀ c ∈ cursor.rest.head?, Place.next cursor.offset c .colon = none := by
    intro c first
    simp [Place.next, unblank c first, stops c first]
  rw [readAt_refused refused fun _ => rfl]
  rcases cursor with ⟨offset, _ | ⟨c, rest⟩⟩
  · rfl
  · rfl

/-- A declaration whose keyword and colon are there. -/
theorem startDeclaration_of_colon
    (split : NameSplit cursor middle behind startKeyword.toList gap) {inside next : Cursor}
    {blanks : List Char} (colon : behind.Passes [':'] inside) (passes : inside.Passes blanks next)
    (blank : ∀ c ∈ blanks, isInlineBlank c = true) (unblank : next.Stops isInlineBlank) :
    startDeclaration cursor = ((identifier next).map Statement.start).after
      (some (next.missing [next.lacking .blank .anything])) := by
  have opened := paddedJust_of_passes split.inlineBlanks_eq colon (List.cons_ne_nil _ _) passes
    blank unblank
  refine (bind_of_ok (just_of_passes split.name) _).trans ?_
  rw [bind_of_ok opened, Run.after_none, map_apply]

/-- A declaration is parsed once there is a colon behind the keyword, or it fails where reading
does. -/
theorem startDeclaration_parsed
    (split : NameSplit cursor middle behind startKeyword.toList gap) {after : Place}
    {expected : List Expectation}
    (ends : NameEnds .leftName .afterLeftName
      ((Slice.startingAt cursor.offset).extend startKeyword.toList) middle behind after expected)
    {inside : Cursor} (colon : behind.Passes [':'] inside) :
    (∃ name next last failure later,
        startDeclaration cursor = ⟨some (.start name, next), failure⟩ ∧
        inlineBlanks next = ⟨some ((), last), later⟩ ∧
        Finishes (readAt after behind) (.start name) last
          (failure.merge SyntaxError.merge later) ∧
        behind.Precedes last) ∨
      ∃ error, startDeclaration cursor = ⟨none, some error⟩ ∧
        behind.offset < error.span.start ∧ readAt after behind = .error error := by
  rcases Cursor.exists_longest isInlineBlank inside with ⟨blanks, next, passes, blank, unblank⟩
  have precedes : behind.Precedes next :=
    (colon.precedes (List.cons_ne_nil _ _)).trans_passes passes
  have begun : readAt after behind = readAt .colon next := by
    have allowed : after.next behind.offset ':' = some .colon := by
      rw [ends.next_eq ':' colon.head]
      exact Place.afterName_eq_some_iff.mpr
        (Or.inr (Or.inr ⟨rfl, text_eq_startKeyword_iff.mpr rfl, rfl⟩))
    rw [readAt_single colon allowed rfl, readAt_blanks Reads.patient_colon passes blank]
  rw [begun, startDeclaration_of_colon split colon passes blank unblank]
  by_cases stops : next.Stops isIdentifierStart
  · right
    refine ⟨_, ?_, precedes.offset_lt, readAt_colon_refused unblank stops⟩
    rw [identifier_of_stops stops, Run.map, Run.after, Option.merge_some_some,
      SyntaxError.merge_missing]
    rfl
  · left
    rcases exists_nameSplit stops with ⟨name, ended, gapLater, last, splitName⟩
    rcases splitName.nameEnds Reads.collectsName_startName
      (fun _ => Reads.completed_afterStartName.toPatient)
      (fun c _ starts => Reads.beginsName_colon next.offset c starts) with
      ⟨place, expectedName, endsName, awaits, reads⟩
    have asked : Awaits (some (next.missing [next.lacking .blank .anything])) next _ :=
      Awaits.missing
    rw [splitName.identifier_eq]
    refine ⟨_, ended, last, _, _, rfl, splitName.inlineBlanks_eq,
      ⟨place, _, endsName.done splitName.unblank, ?_, reads⟩, precedes.trans splitName.precedes⟩
    simp only [Run.map]
    rw [SyntaxError.option_merge_assoc]
    exact asked.nil_merge splitName.precedes.offset_lt awaits

/-- A statement is parsed as a declaration or as a rule, or the parser is stuck. -/
theorem statement_parsed (split : NameSplit cursor middle behind letters gap) {place : Place}
    (begins : ∀ c ∈ cursor.rest.head?, isIdentifierStart c = true →
      place.next cursor.offset c = some (.leftName ((Slice.startingAt cursor.offset).push c))) :
    (∃ statement next last failure later,
        Parser.statement cursor = ⟨some (statement, next), failure⟩ ∧
        inlineBlanks next = ⟨some ((), last), later⟩ ∧
        Finishes (readAt place cursor) statement last
          (failure.merge SyntaxError.merge later) ∧
        cursor.Precedes last) ∨
      Stuck cursor.offset (fun c => c = '"' ∨ c = '|') (Parser.statement cursor)
        (readAt place cursor) := by
  rcases split.nameEnds Reads.collectsName_leftName (fun _ => Reads.patient_afterLeftName) begins
    with ⟨after, expected, ends, awaits, reads⟩
  rw [reads]
  rcases behind.stops_or_passes '-' with undashed | ⟨inside, dash⟩
  · by_cases colon : letters = startKeyword.toList ∧ ¬ behind.Stops (· == ':')
    · rcases colon with ⟨rfl, colonThere⟩
      rcases behind.stops_or_passes ':' with none | ⟨inside, colon⟩
      · exact absurd none colonThere
      rcases startDeclaration_parsed split ends colon with
        ⟨name, next, last, failure, later, declared, blanks, finishes, further⟩ |
          ⟨error, failed, beyond, read⟩
      · left
        exact ⟨.start name, next, last, failure, later, orElse_of_ok declared _, blanks, finishes,
          split.precedes.trans further⟩
      · right
        rcases rule_of_stops split awaits undashed with ⟨later, failedLater, awaitsLater⟩
        refine Stuck.of_failed read ?_ (Nat.lt_trans split.precedes.offset_lt beyond)
        refine (orElse_of_failed failed _).trans ?_
        rw [failedLater, Run.after, awaitsLater.of_lt_merge beyond]
    · right
      have undeclared : letters = startKeyword.toList → behind.Stops (· == ':') :=
        fun keyword => Classical.not_not.mp fun colonThere => colon ⟨keyword, colonThere⟩
      rcases statement_refused split ends awaits undashed undeclared with
        ⟨error, failed, beyond, read⟩
      exact Stuck.of_failed read failed beyond
  · have undeclared : behind.Stops (· == ':') := Cursor.stops_of_head dash.head (by decide)
    rcases startDeclaration_asks split ends fun _ => undeclared with
      ⟨failure, first, failed, awaitsFirst, _⟩
    have parsed : Parser.statement cursor = (rule cursor).after failure :=
      orElse_of_failed failed _
    rcases rule_parsed split ends dash with
      ⟨statement, last, found, ran, unblank, ⟨place, expected, done, asked, answer⟩, further⟩ |
        stuck
    · left
      refine ⟨statement, last, last, failure.merge SyntaxError.merge found, _, ?_,
        inlineBlanks_of_stops unblank, ⟨place, expected, done, ?_, answer⟩,
        split.precedes.trans further⟩
      · rw [parsed, ran]
        rfl
      · rw [SyntaxError.option_merge_assoc]
        exact awaitsFirst.nil_merge further.offset_lt asked
    · right
      rw [parsed]
      exact (stuck.after awaitsFirst (Nat.le_refl _)).mono (Nat.le_of_lt split.precedes.offset_lt)
        fun _ => id

end Statement

end Cyk.Definition
