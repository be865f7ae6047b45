import Cyk.Proofs.Definition.Comparison

/-!
# How names and symbols are parsed

A name or a terminal, the blanks behind it, and more symbols as long as there are some.  What is
asked for behind them is what their place asks for, or the parser is stuck in a terminal.
-/

namespace Cyk.Definition

open Text Cyk.Definition.Parser

/-! ## Names -/

/-- A text begins with a name and the blanks behind it. -/
structure NameSplit (cursor middle behind : Cursor) (letters blanks : List Char) : Prop where
  name : cursor.Passes letters middle
  named : isIdentifier letters = true
  stops : middle.Stops isIdentifierContinue
  gap : middle.Passes blanks behind
  blank : ∀ c ∈ blanks, isInlineBlank c = true
  unblank : behind.Stops isInlineBlank

/-- Where a name is over: right behind it or behind blanks, and what is asked for there. -/
inductive NameEnds (placeOf settledOf : Slice → Place) (name : Slice) (middle : Cursor) :
    Cursor → Place → List Expectation → Prop where
  | inside (stops : middle.Stops isIdentifierContinue) :
    NameEnds placeOf settledOf name middle middle (placeOf name)
      (Expectation.join [middle.lacking .identifier .anything] [middle.lacking .blank .anything])
  | outside {behind : Cursor} (forward : middle.offset < behind.offset) :
    NameEnds placeOf settledOf name middle behind (settledOf name)
      [behind.lacking .blank .anything]

theorem exists_nameSplit {cursor : Cursor} (starts : ¬ cursor.Stops isIdentifierStart) :
    ∃ letters middle blanks behind, NameSplit cursor middle behind letters blanks := by
  rcases cursor with ⟨offset, _ | ⟨c, rest⟩⟩
  · exact absurd (fun _ => nofun) starts
  · rcases Cursor.exists_longest isIdentifierContinue ⟨offset + c.utf8Size, rest⟩ with
      ⟨letters, middle, passes, continues, stops⟩
    rcases Cursor.exists_longest isInlineBlank middle with ⟨blanks, behind, gap, blank, unblank⟩
    have begins : isIdentifierStart c = true := by
      apply Bool.not_eq_false _ |>.mp
      intro other
      exact starts (Cursor.stops_of_head rfl other)
    have named : isIdentifier (c :: letters) = true :=
      Bool.and_eq_true_iff.mpr ⟨begins, List.all_eq_true.mpr continues⟩
    exact ⟨c :: letters, middle, blanks, behind, Cursor.Passes.single.trans passes, named, stops,
      gap, blank, unblank⟩

namespace NameSplit

variable {cursor middle behind : Cursor} {letters blanks : List Char}
  (split : NameSplit cursor middle behind letters blanks)

include split

theorem identifier_eq :
    identifier cursor =
      ⟨some ((Slice.startingAt cursor.offset).extend letters, middle),
        some (middle.missing [middle.lacking .identifier .anything])⟩ :=
  identifier_of_passes split.name split.named split.stops

theorem inlineBlanks_eq :
    inlineBlanks middle =
      ⟨some ((), behind), some (behind.missing [behind.lacking .blank .anything])⟩ :=
  inlineBlanks_of_passes split.gap split.blank split.unblank

theorem starts : ∀ c ∈ cursor.rest.head?, isIdentifierStart c = true := by
  rcases split with ⟨passes, named, -, -, -, -⟩
  cases letters with
  | nil => contradiction
  | cons c letters =>
    intro d first
    rw [passes.rest_eq] at first
    cases first
    exact (Bool.and_eq_true_iff.mp named).1

theorem continues : ∀ c ∈ letters.tail, isIdentifierContinue c = true := by
  rcases split with ⟨-, named, -, -, -, -⟩
  cases letters with
  | nil => contradiction
  | cons c letters => exact List.all_eq_true.mp (Bool.and_eq_true_iff.mp named).2

theorem letters_ne_nil : letters ≠ [] := by
  rintro rfl
  exact absurd split.named Bool.false_ne_true

theorem precedes : cursor.Precedes behind :=
  (split.name.precedes split.letters_ne_nil).trans_passes split.gap

theorem offset_le : middle.offset ≤ behind.offset := by
  rw [split.gap.offset_eq]
  exact Nat.le_add_right _ _

/-- The parser and reading both come to the end of the name and of the blanks behind it. -/
theorem nameEnds {placeOf settledOf : Slice → Place} (collects : CollectsName placeOf settledOf)
    (patient : ∀ name, Patient (settledOf name)) {place : Place}
    (begins : ∀ c ∈ cursor.rest.head?, isIdentifierStart c = true →
      place.next cursor.offset c = some (placeOf ((Slice.startingAt cursor.offset).push c))) :
    ∃ after expected,
      NameEnds placeOf settledOf ((Slice.startingAt cursor.offset).extend letters) middle behind
          after expected ∧
        Awaits ((some (middle.missing [middle.lacking .identifier .anything])).merge
          SyntaxError.merge (some (behind.missing [behind.lacking .blank .anything])))
          behind expected ∧
        readAt place cursor = readAt after behind := by
  have collected : readAt place cursor =
      readAt (placeOf ((Slice.startingAt cursor.offset).extend letters)) middle := by
    rcases split with ⟨passes, named, -, -, -, -⟩
    cases letters with
    | nil => contradiction
    | cons c letters =>
      rcases Bool.and_eq_true_iff.mp named with ⟨starts, continues⟩
      rcases passes.uncons with ⟨rest, whole, later⟩
      have first : c ∈ cursor.rest.head? := by
        rw [whole]
        rfl
      rw [whole, readAt_within (begins c first starts) (collects.inner _),
        readAt_collected collects.toCollects later (List.all_eq_true.mp continues)]
      rfl
  rw [collected]
  by_cases none : blanks = []
  · obtain rfl : behind = middle := by
      rw [none] at split
      exact split.gap.eq_of_nil
    exact ⟨_, _, .inside split.stops, Awaits.missing.merge Awaits.missing, rfl⟩
  · have early : Awaits (some (middle.missing [middle.lacking .identifier .anything])) behind [] :=
      Awaits.missing.of_lt (split.gap.offset_lt none)
    have late : Awaits (some (behind.missing [behind.lacking .blank .anything])) behind
        [behind.lacking .blank .anything] := Awaits.missing
    have awaits := early.merge late
    rw [Expectation.nil_join] at awaits
    exact ⟨_, _, .outside (split.gap.offset_lt none), awaits,
      readAt_settled collects (patient _) split.gap split.blank none⟩

end NameSplit

/-! ## Symbols -/

/-- Where a symbol of a rule is over, and what is asked for there. -/
inductive Rests (cursor : Cursor) : OpenRule → Place → List Expectation → Prop where
  | settled {rule : OpenRule} :
    Rests cursor rule (.afterSymbol rule) [cursor.lacking .blank .anything]
  | named {rule : OpenRule} {name : Slice} (stops : cursor.Stops isIdentifierContinue) :
    Rests cursor (rule.add (.nonterminal name)) (.rightName rule name)
      (Expectation.join [cursor.lacking .identifier .anything] [cursor.lacking .blank .anything])

/-- A parser has come to the end of a symbol, where reading goes on as well, and has tried some
more there. -/
def Reaches (answer : Except SyntaxError (List Statement)) (rule : OpenRule) (behind : Cursor)
    (failure : Option SyntaxError) (tried : List Expectation) : Prop :=
  ∃ place expected, Rests behind rule place expected ∧ behind.Stops isInlineBlank ∧
    Awaits failure behind (Expectation.join expected tried) ∧ answer = readAt place behind

theorem isInTerminal_iff {c : Char} :
    isInTerminal c = true ↔ c ≠ '"' ∧ isReturn c = false := by
  simp [isInTerminal]

/-- In a terminal, reading fails before a character that cannot stand there and does not end it. -/
theorem readAt_terminal_refused {rule : OpenRule} {content : Slice} {cursor : Cursor}
    (stops : cursor.Stops isInTerminal)
    (unquoted : content.text = "" ∨ cursor.Stops (· == '"')) :
    readAt (.terminal rule content) cursor =
      .error (cursor.missing
        (if content.text = "" then [.somethingElse] else [.somethingElse, .character '"'])) := by
  have refused : ∀ c ∈ cursor.rest.head?,
      Place.next cursor.offset c (.terminal rule content) = none := by
    intro c first
    by_cases quote : c = '"'
    · rcases unquoted with empty | unquoted
      · simp [Place.next, quote, empty]
      · exact absurd quote (beq_eq_false_iff_ne.mp (unquoted c first))
    · have ends : isReturn c = true := by simpa [isInTerminal, quote] using stops c first
      simp [Place.next, quote, ends]
  rw [readAt_refused refused fun _ => rfl]
  simp [Place.expected]

/-- Behind a quote, the text goes on with a longest part that can stand in a terminal. -/
structure TerminalSplit (cursor inside last : Cursor) (content : List Char) : Prop where
  opens : cursor.Passes ['"'] inside
  passes : inside.Passes content last
  all : ∀ c ∈ content, isInTerminal c = true
  stops : last.Stops isInTerminal

theorem exists_terminalSplit {cursor inside : Cursor} (opens : cursor.Passes ['"'] inside) :
    ∃ content last, TerminalSplit cursor inside last content := by
  rcases Cursor.exists_longest isInTerminal inside with ⟨content, last, passes, all, stops⟩
  exact ⟨content, last, opens, passes, all, stops⟩

namespace TerminalSplit

variable {cursor inside last behind : Cursor} {content : List Char}
  (split : TerminalSplit cursor inside last content)

include split

theorem readAt_eq (rule : OpenRule) :
    readAt (.terminal rule (.startingAt inside.offset)) inside =
      readAt (.terminal rule ((Slice.startingAt inside.offset).extend content)) last :=
  readAt_collected Reads.collects_terminal split.passes
    fun c member => isInTerminal_iff.mp (split.all c member)

theorem precedes : cursor.Precedes last :=
  (split.opens.precedes (List.cons_ne_nil _ _)).trans_passes split.passes

theorem terminal_of_empty (empty : content = []) :
    terminal cursor = ⟨none, some (last.missing [.somethingElse])⟩ := by
  rcases split with ⟨opens, passes, -, stops⟩
  rw [empty] at passes
  obtain rfl : last = inside := passes.eq_of_nil
  have failed : sliced (repeatedOnce (token .somethingElse .somethingElse isInTerminal)) last =
      ⟨none, some (last.missing [.somethingElse])⟩ := by
    apply sliced_of_failed
    rw [repeatedOnce_of_failed (token_of_stops stops), Cursor.lacking_self]
  exact (bind_of_ok (just_of_passes opens) _).trans
    (by rw [bind_of_failed failed, Run.after_none])

theorem sliced_eq (nonempty : content ≠ []) :
    sliced (repeatedOnce (token .somethingElse .somethingElse isInTerminal)) inside =
      ⟨some ((Slice.startingAt inside.offset).extend content, last),
        some (last.missing [.somethingElse])⟩ := by
  rcases repeatedOnce_token split.passes nonempty split.all split.stops with ⟨values, ran⟩
  rw [sliced_of_ok split.passes ran, Cursor.lacking_self]

theorem terminal_of_unclosed (nonempty : content ≠ []) (unquoted : last.Stops (· == '"')) :
    terminal cursor = ⟨none, some (last.missing [.somethingElse, .character '"'])⟩ := by
  refine (bind_of_ok (just_of_passes split.opens) _).trans ?_
  rw [bind_of_ok (split.sliced_eq nonempty), bind_of_failed (just_of_stops [] unquoted),
    Run.after_none, Run.after, Option.merge_some_some, SyntaxError.merge_missing]
  rfl

theorem terminal_of_closed (nonempty : content ≠ []) (closes : last.Passes ['"'] behind) :
    terminal cursor =
      ⟨some (.terminal ((Slice.startingAt inside.offset).extend content), behind),
        some (last.missing [.somethingElse])⟩ := by
  refine (bind_of_ok (just_of_passes split.opens) _).trans ?_
  rw [bind_of_ok (split.sliced_eq nonempty), bind_of_ok (just_of_passes closes), Run.after_none,
    Run.after_none]
  rfl

end TerminalSplit

/-- Behind a quote, the parser and reading come to the end of the terminal, or fail alike. -/
theorem terminal_parsed {cursor inside : Cursor} (opens : cursor.Passes ['"'] inside) :
    (∃ symbol behind failure, terminal cursor = ⟨some (symbol, behind), failure⟩ ∧
        Awaits failure behind [] ∧ cursor.Precedes behind ∧
        ∀ rule, readAt (.terminal rule (.startingAt inside.offset)) inside =
          readAt (.afterSymbol (rule.add symbol)) behind) ∨
      ∃ error, terminal cursor = ⟨none, some error⟩ ∧ cursor.offset < error.span.start ∧
        ∀ rule, readAt (.terminal rule (.startingAt inside.offset)) inside = .error error := by
  rcases exists_terminalSplit opens with ⟨content, last, split⟩
  have spelled : ((Slice.startingAt inside.offset).extend content).text = String.ofList content :=
    Slice.extend_startingAt_text inside.offset content
  by_cases none : content = []
  · right
    have empty : ((Slice.startingAt inside.offset).extend content).text = "" := by
      rw [spelled, none]
    refine ⟨_, split.terminal_of_empty none, split.precedes.offset_lt, ?_⟩
    intro rule
    rw [split.readAt_eq, readAt_terminal_refused split.stops (Or.inl empty), if_pos empty]
  · have nonempty : ((Slice.startingAt inside.offset).extend content).text ≠ "" := by
      rw [spelled]
      simpa using none
    rcases last.stops_or_passes '"' with unquoted | ⟨behind, closes⟩
    · right
      refine ⟨_, split.terminal_of_unclosed none unquoted, split.precedes.offset_lt, ?_⟩
      intro rule
      rw [split.readAt_eq, readAt_terminal_refused split.stops (Or.inr unquoted),
        if_neg nonempty]
    · left
      refine ⟨_, behind, _, split.terminal_of_closed none closes,
        Awaits.missing.of_lt (closes.offset_lt (List.cons_ne_nil _ _)),
        split.precedes.trans_passes closes, ?_⟩
      intro rule
      have closed : Place.next last.offset '"'
          (.terminal rule ((Slice.startingAt inside.offset).extend content)) =
            some (.afterSymbol (rule.add (.terminal
              ((Slice.startingAt inside.offset).extend content)))) :=
        Place.next_terminal_eq_some_iff.mpr (Or.inl ⟨rfl, nonempty, rfl⟩)
      rw [split.readAt_eq, readAt_single closes closed rfl]

/-- What is missing where a symbol should begin. -/
def Cursor.withoutSymbol (cursor : Cursor) : List Expectation :=
  Expectation.join [cursor.lacking .blank .anything]
    (Expectation.join [.character '"'] [cursor.lacking .identifier .anything])

/-- A character that begins a symbol. -/
def beginsSymbol (c : Char) : Bool :=
  c == '"' || isIdentifierStart c

theorem paddedSymbol_of_stops {cursor : Cursor} (unblank : cursor.Stops isInlineBlank)
    (stops : cursor.Stops beginsSymbol) :
    padded symbol cursor = ⟨none, some (cursor.missing cursor.withoutSymbol)⟩ := by
  have unquoted : cursor.Stops (· == '"') :=
    fun c first => (Bool.or_eq_false_iff.mp (stops c first)).1
  have unnamed : cursor.Stops isIdentifierStart :=
    fun c first => (Bool.or_eq_false_iff.mp (stops c first)).2
  have failed : symbol cursor = ⟨none, some (cursor.missing
      (Expectation.join [.character '"'] [cursor.lacking .identifier .anything]))⟩ := by
    refine (orElse_of_failed (bind_of_failed (just_of_stops [] unquoted) _) _).trans ?_
    rw [map_apply, identifier_of_stops unnamed]
    simp [Run.map, Run.after]
  rw [padded_of_failed (inlineBlanks_of_stops unblank) failed, Option.merge_some_some,
    SyntaxError.merge_missing]
  rfl

variable {rule : OpenRule} {place : Place} {cursor : Cursor}

/-- A symbol of a rule may begin at a place here. -/
def MayBegin (place : Place) (rule : OpenRule) (cursor : Cursor) : Prop :=
  ∀ c ∈ cursor.rest.head?, ∀ following,
    Place.beginSymbol rule cursor.offset c = some following →
      place.next cursor.offset c = some following

/-- A terminal is parsed with the blanks behind it. -/
theorem paddedTerminal_parsed (mayBegin : MayBegin place rule cursor)
    {inside : Cursor} (opens : cursor.Passes ['"'] inside) :
    (∃ symbol behind failure, padded Parser.symbol cursor = ⟨some (symbol, behind), failure⟩ ∧
        Reaches (readAt place cursor) (rule.add symbol) behind failure [] ∧
        cursor.Precedes behind) ∨
      ∃ error, padded Parser.symbol cursor = ⟨none, some error⟩ ∧
        cursor.offset < error.span.start ∧ readAt place cursor = .error error := by
  have first := opens.head
  have unblank : cursor.Stops isInlineBlank := Cursor.stops_of_head first (by decide)
  have opened : readAt place cursor =
      readAt (.terminal rule (.startingAt inside.offset)) inside := by
    have begun := mayBegin '"' first _ (Place.beginSymbol_eq_some_iff.mpr (Or.inl ⟨rfl, rfl⟩))
    rw [readAt_single opens begun rfl, opens.offset_eq]
    rfl
  have blanks := inlineBlanks_of_stops unblank
  rcases terminal_parsed opens with
    ⟨symbol, middle, failure, ran, awaits, precedes, reads⟩ | ⟨error, failed, beyond, reads⟩
  · left
    rcases Cursor.exists_longest isInlineBlank middle with ⟨gap, behind, passes, blank, stops⟩
    have parsed : Parser.symbol cursor = ⟨some (symbol, middle), failure⟩ := orElse_of_ok ran _
    have blanksLater := inlineBlanks_of_passes passes blank stops
    have awaitsBlank : Awaits (failure.merge SyntaxError.merge
        (some (behind.missing [behind.lacking .blank .anything]))) behind
          [behind.lacking .blank .anything] := by
      have merged := (passes.awaits awaits).merge
        (Awaits.missing : Awaits _ behind [behind.lacking .blank .anything])
      rwa [Expectation.nil_join] at merged
    have forward := precedes.trans_passes passes
    refine ⟨symbol, behind, _, padded_of_ok blanks parsed blanksLater, ?_, forward⟩
    refine ⟨_, _, .settled, stops, ?_, ?_⟩
    · rw [Expectation.join_nil]
      exact Awaits.missing.nil_merge forward.offset_lt awaitsBlank
    · rw [opened, reads rule, readAt_blanks Reads.completed_afterSymbol.toPatient passes blank]
  · right
    have unnamed : cursor.Stops isIdentifierStart :=
      Cursor.stops_of_head first (of_mem_signs (by decide)).1
    have refused : Parser.symbol cursor = ⟨none, some error⟩ := by
      refine (orElse_of_failed failed _).trans ?_
      rw [map_apply, identifier_of_stops unnamed, Run.map, Run.after, Option.map_none,
        Awaits.missing.of_lt_merge beyond]
    refine ⟨error, ?_, beyond, opened.trans (reads rule)⟩
    rw [padded_of_failed blanks refused, Awaits.missing.merge_of_lt beyond]

/-- A name is parsed as a symbol, with the blanks behind it. -/
theorem paddedName_parsed (mayBegin : MayBegin place rule cursor) {middle behind : Cursor}
    {letters gap : List Char} (split : NameSplit cursor middle behind letters gap) :
    ∃ symbol failure, padded Parser.symbol cursor = ⟨some (symbol, behind), failure⟩ ∧
      Reaches (readAt place cursor) (rule.add symbol) behind failure [] := by
  have starts : ∀ c ∈ cursor.rest.head?, isIdentifierStart c = true := split.starts
  have unblank : cursor.Stops isInlineBlank :=
    fun c first => (of_isIdentifierStart (starts c first)).1
  have unquoted : cursor.Stops (· == '"') := by
    intro c first
    apply beq_eq_false_iff_ne.mpr
    rintro rfl
    exact (of_isIdentifierStart (starts '"' first)).2.2 (by decide)
  have forward := split.name.offset_lt split.letters_ne_nil
  have parsed : Parser.symbol cursor =
      ⟨some (.nonterminal ((Slice.startingAt cursor.offset).extend letters), middle),
        some (middle.missing [middle.lacking .identifier .anything])⟩ := by
    refine (orElse_of_failed (bind_of_failed (just_of_stops [] unquoted) _) _).trans ?_
    rw [map_apply, split.identifier_eq, Run.map, Run.after, Awaits.missing.merge_of_lt forward]
    rfl
  have begins : ∀ c ∈ cursor.rest.head?, isIdentifierStart c = true →
      place.next cursor.offset c =
        some (.rightName rule ((Slice.startingAt cursor.offset).push c)) :=
    fun c first starts =>
      mayBegin c first _ (Place.beginSymbol_eq_some_iff.mpr (Or.inr ⟨starts, rfl⟩))
  rcases split.nameEnds Reads.collectsName_rightName
    (fun _ => Reads.completed_afterSymbol.toPatient) begins with
    ⟨after, expected, ends, awaits, reads⟩
  refine ⟨_, _, padded_of_ok (inlineBlanks_of_stops unblank) parsed split.inlineBlanks_eq, ?_⟩
  have early : Awaits (some (cursor.missing [cursor.lacking .blank .anything])) cursor _ :=
    Awaits.missing
  have awaits := early.nil_merge split.precedes.offset_lt awaits
  rw [← Expectation.join_nil expected] at awaits
  rw [reads]
  cases ends with
  | inside stops => exact ⟨_, _, .named stops, split.unblank, awaits, rfl⟩
  | outside _ => exact ⟨_, _, .settled, split.unblank, awaits, rfl⟩

/-- A symbol is parsed if one begins, or the parser fails where reading does. -/
theorem paddedSymbol_parsed (mayBegin : MayBegin place rule cursor)
    (unblank : cursor.Stops isInlineBlank) :
    (cursor.Stops beginsSymbol ∧
        padded symbol cursor = ⟨none, some (cursor.missing cursor.withoutSymbol)⟩) ∨
      (∃ symbol behind failure, padded Parser.symbol cursor = ⟨some (symbol, behind), failure⟩ ∧
        Reaches (readAt place cursor) (rule.add symbol) behind failure [] ∧
        cursor.Precedes behind) ∨
      '"' ∈ cursor.rest.head? ∧ ∃ error, padded Parser.symbol cursor = ⟨none, some error⟩ ∧
        cursor.offset < error.span.start ∧ readAt place cursor = .error error := by
  by_cases stops : cursor.Stops beginsSymbol
  · exact Or.inl ⟨stops, paddedSymbol_of_stops unblank stops⟩
  right
  rcases cursor.stops_or_passes '"' with unquoted | ⟨inside, opens⟩
  · left
    have named : ¬ cursor.Stops isIdentifierStart := fun unnamed =>
      stops fun c first => Bool.or_eq_false_iff.mpr ⟨unquoted c first, unnamed c first⟩
    rcases exists_nameSplit named with ⟨letters, middle, gap, behind, split⟩
    rcases paddedName_parsed mayBegin split with ⟨symbol, failure, ran, reaches⟩
    exact ⟨symbol, behind, failure, ran, reaches, split.precedes⟩
  · rcases paddedTerminal_parsed mayBegin opens with found | failed
    · exact Or.inl found
    · exact Or.inr ⟨opens.head, failed⟩

/-! ## Rows of symbols -/

/-- A rule with more symbols. -/
def OpenRule.addAll (rule : OpenRule) (symbols : List Symbol) : OpenRule :=
  { rule with current := rule.current ++ symbols }

@[simp]
theorem OpenRule.addAll_nil (rule : OpenRule) : rule.addAll [] = rule := by
  simp [addAll]

@[simp]
theorem OpenRule.addAll_cons (rule : OpenRule) (symbol : Symbol) (symbols : List Symbol) :
    rule.addAll (symbol :: symbols) = (rule.add symbol).addAll symbols := by
  simp [addAll, add]

variable {behind : Cursor} {expected tried : List Expectation} {failure later : Option SyntaxError}
  {answer : Except SyntaxError (List Statement)}

theorem Rests.next_eq (rests : Rests cursor rule place expected) :
    ∀ c ∈ cursor.rest.head?,
      place.next cursor.offset c = Place.continueRule rule cursor.offset c := by
  intro c first
  cases rests with
  | settled => rfl
  | named stops => simp [Place.next, stops c first]

theorem Rests.mayBegin (rests : Rests cursor rule place expected) : MayBegin place rule cursor := by
  intro c first following begun
  rw [rests.next_eq c first]
  exact Place.continueRule_eq_some_iff.mpr (Or.inr (Or.inr (Or.inl begun)))

/-- What was asked for in front of the symbol does not count. -/
theorem Reaches.after (reaches : Reaches answer rule behind later tried)
    (awaits : Awaits failure cursor expected) (forward : cursor.offset < behind.offset) :
    Reaches answer rule behind (failure.merge SyntaxError.merge later) tried := by
  rcases reaches with ⟨place, expected, rests, unblank, awaitsLater, reads⟩
  exact ⟨place, expected, rests, unblank, awaits.nil_merge forward awaitsLater, reads⟩

/-- The symbols behind a symbol are parsed as long as there are some. -/
theorem symbols_parsed (reaches : Reaches answer rule cursor failure []) :
    (∃ symbols front behind later, (repeated (padded symbol) cursor).after failure =
        ⟨some (symbols, behind), later⟩ ∧
      Reaches answer (rule.addAll symbols) behind later behind.withoutSymbol ∧
      behind.Stops beginsSymbol ∧ cursor.Passes front behind) ∨
      Stuck cursor.offset (· = '"') (repeated (padded symbol) cursor) answer := by
  induction length : cursor.rest.length using Nat.strongRecOn
    generalizing cursor rule failure with
  | ind n ih =>
    subst length
    rcases reaches with ⟨place, expected, rests, unblank, awaits, rfl⟩
    rw [Expectation.join_nil] at awaits
    rcases paddedSymbol_parsed rests.mayBegin unblank with
      ⟨stops, failed⟩ | ⟨symbol, behind, found, ran, reaches, precedes⟩ |
        ⟨quote, error, failed, beyond, read⟩
    · left
      refine ⟨[], [], cursor, failure.merge SyntaxError.merge
        (some (cursor.missing cursor.withoutSymbol)), ?_, ?_, stops, .nil⟩
      · rw [repeated_of_failed failed]
        rfl
      · rw [OpenRule.addAll_nil]
        exact ⟨place, expected, rests, unblank, awaits.merge Awaits.missing, rfl⟩
    · have repeats := repeated_of_ok ran precedes.length_lt
      have forward := precedes.offset_lt
      rcases ih _ precedes.length_lt (reaches.after awaits forward) rfl with
        ⟨symbols, front, last, later, ran, reaches, stops, passes⟩ | stuck
      · left
        rcases precedes.trans_passes passes with ⟨front, _, passes⟩
        refine ⟨symbol :: symbols, front, last, later, ?_, ?_, stops, passes⟩
        · rw [repeats, Run.after_after, ← Run.map_after, ran]
          rfl
        · rwa [OpenRule.addAll_cons]
      · right
        rcases reaches with ⟨_, _, _, _, awaitsFound, _⟩
        rw [repeats]
        exact ((stuck.map _).after awaitsFound (Nat.le_refl _)).mono (Nat.le_of_lt forward)
          fun _ => id
    · right
      rw [repeated_of_failed failed]
      refine ⟨error, read, rfl, beyond, ?_⟩
      rintro _ _ ⟨⟩
      exact ⟨beyond, '"', quote, rfl⟩

end Cyk.Definition
