import Cyk.Proofs.Definition.Language

/-!
# Line ends

Seven characters end a line, and a carriage return with a line feed behind it counts once.  Around
statements it makes no difference which of them is written.  In comments and terminals it does: only
a carriage return or a line feed ends these, and the other line ends are passed over.
-/

namespace Cyk.Definition

open Text

/-- The text with a line feed for each of its line ends. -/
def lineFeeds : List Char → List Char
  | [] => []
  | '\r' :: '\n' :: rest => '\n' :: lineFeeds rest
  | c :: rest => (if isLineEnd c then '\n' else c) :: lineFeeds rest

/-- The definition with a line feed for each of its line ends. -/
def withLineFeeds (definition : String) : String :=
  String.ofList (lineFeeds definition.toList)

/-- The line ends in a text that do not lead back to the margin, each behind the place where it is
read. -/
def passedOver (place : Place) (offset : Nat) : List Char → List (Place × Char)
  | [] => []
  | c :: rest =>
    match place.next offset c with
    | none => []
    | some following =>
      (if isLineEnd c = true ∧ following ≠ .margin then [(place, c)] else []) ++
        passedOver following (offset + c.utf8Size) rest

/-- A place is within a comment or a terminal. -/
inductive Place.Encloses : Place → Prop
  | comment : Encloses .comment
  | terminal {rule : OpenRule} {content : Slice} : Encloses (.terminal rule content)

section Steps

variable {place following : Place} {offset : Nat} {c : Char} {rest : List Char}

theorem separates_of_collectsName {placeOf settledOf : Slice → Place} {slice : Slice}
    (collects : CollectsName placeOf settledOf) (separates : Separates (settledOf slice)) :
    Separates (placeOf slice) where
  lineEnd offset c ends := by
    rw [collects.same offset c slice (of_isLineEnd ends).2.2.2]
    exact separates.lineEnd offset c ends
  comment offset := by
    rw [collects.same offset '#' slice (of_mem_signs (by decide)).2]
    exact separates.comment offset

theorem Place.next_comment_of_not_isReturn (within : isReturn c = false)
    (step : Place.next offset c .comment = some following) : following = .comment := by
  rcases Place.next_comment_eq_some_iff.mp step with ⟨ends, -⟩ | ⟨-, rfl⟩
  · exact absurd ends (Bool.eq_false_iff.mp within)
  · rfl

/-- A line end leads back to the margin and could as well be a line feed, unless it is passed over
in a comment or a terminal. -/
theorem Place.next_lineEnd (ends : isLineEnd c = true)
    (step : place.next offset c = some following) :
    (following = .margin ∧ ∀ offset', place.next offset' '\n' = some .margin) ∨
      (isReturn c = false ∧ following ≠ .margin ∧ place.Encloses) := by
  have separated (separates : Separates place) :
      following = .margin ∧ ∀ offset', place.next offset' '\n' = some .margin := by
    rw [separates.lineEnd offset c ends] at step
    exact ⟨(Option.some_inj.mp step).symm, fun offset' => separates.lineEnd offset' '\n' rfl⟩
  cases place with
  | margin => exact Or.inl (separated Reads.separates_margin)
  | indented => exact Or.inl (separated Reads.separates_indented)
  | comment =>
    rcases Place.next_comment_eq_some_iff.mp step with ⟨-, rfl⟩ | ⟨within, rfl⟩
    · exact Or.inl ⟨rfl, fun _ => rfl⟩
    · exact Or.inr ⟨within, nofun, .comment⟩
  | rightName rule name =>
    exact Or.inl (separated (separates_of_collectsName Reads.collectsName_rightName
      Reads.completed_afterSymbol.toSeparates))
  | afterSymbol rule => exact Or.inl (separated Reads.completed_afterSymbol.toSeparates)
  | terminal rule content =>
    rcases Place.next_terminal_eq_some_iff.mp step with ⟨rfl, -, -⟩ | ⟨-, within, rfl⟩
    · exact absurd ends (by decide)
    · exact Or.inr ⟨within, nofun, .terminal⟩
  | startName name =>
    exact Or.inl (separated (separates_of_collectsName Reads.collectsName_startName
      Reads.completed_afterStartName.toSeparates))
  | afterStartName name => exact Or.inl (separated Reads.completed_afterStartName.toSeparates)
  | leftName name =>
    grind [Place.next_leftName_eq_some_iff, Place.afterName_eq_some_iff, signs]
  | afterLeftName name => grind [Place.next, Place.afterName_eq_some_iff, signs]
  | arrow lhs => grind [Place.next_arrow_eq_some_iff, signs]
  | alternative rule =>
    grind [Place.next_alternative_eq_some_iff, Place.beginSymbol_eq_some_iff, signs]
  | colon => grind [Place.next_colon_eq_some_iff]

theorem passedOver_cons (step : place.next offset c = some following) :
    passedOver place offset (c :: rest) =
      (if isLineEnd c = true ∧ following ≠ .margin then [(place, c)] else []) ++
        passedOver following (offset + c.utf8Size) rest := by
  rw [passedOver, step]

theorem forall_mem_passedOver_cons {holds : Place × Char → Prop}
    (step : place.next offset c = some following) :
    (∀ passed ∈ passedOver place offset (c :: rest), holds passed) ↔
      (isLineEnd c = true → following ≠ .margin → holds (place, c)) ∧
        ∀ passed ∈ passedOver following (offset + c.utf8Size) rest, holds passed := by
  rw [passedOver_cons step, List.forall_mem_append, ← and_imp]
  apply and_congr_left
  intro _
  split
  · rename_i skipped
    simp [skipped]
  · rename_i back
    simp [back]

/-- Only line ends that are no returns are passed over, and only in comments and terminals. -/
theorem of_mem_passedOver {text : List Char} {passed : Place × Char}
    (member : passed ∈ passedOver place offset text) :
    isReturn passed.2 = false ∧ passed.1.Encloses := by
  induction text generalizing place offset with
  | nil => contradiction
  | cons c rest ih =>
    cases step : place.next offset c with
    | none =>
      rw [passedOver, step] at member
      contradiction
    | some following =>
      rw [passedOver_cons step] at member
      rcases List.mem_append.mp member with here | later
      · split at here
        · rename_i skipped
          rw [List.mem_singleton.mp here]
          rcases Place.next_lineEnd skipped.1 step with ⟨back, -⟩ | ⟨within, -, encloses⟩
          · exact absurd back skipped.2
          · exact ⟨within, encloses⟩
        · contradiction
      · exact ih later

end Steps

/-! ## What is said with line feeds -/

/-- Some statements are read from a place on, apart from where they stand. -/
def Says (place : Place) (offset : Nat) (text : List Char) (said : List PlainStatement) : Prop :=
  ∃ found, readFrom place offset text = .ok found ∧ found.map Statement.plain = said

namespace Says

variable {place other following : Place} {offset offset' : Nat} {c : Char} {text rest : List Char}
  {said said' : List PlainStatement}

theorem nil_iff : Says place offset [] said ↔ place.mayEnd = true ∧ said = place.pending := by
  constructor
  · rintro ⟨found, run, rfl⟩
    rcases readFrom_nil_eq_ok_iff.mp run with ⟨ends, rfl⟩
    exact ⟨ends, rfl⟩
  · rintro ⟨ends, rfl⟩
    exact Reads.nil ends offset

theorem cons_iff :
    Says place offset (c :: rest) said ↔
      ∃ following, place.next offset c = some following ∧
        ∃ later, Says following (offset + c.utf8Size) rest later ∧
          said = Completes.ended place following ++ later := by
  constructor
  · rintro ⟨found, run, rfl⟩
    rcases readFrom_cons_eq_ok_iff.mp run with ⟨following, step, others, later, rfl⟩
    refine ⟨following, step, _, ⟨others, later, rfl⟩, ?_⟩
    rw [List.map_append, Completes.map_plain_finished]
  · rintro ⟨following, step, _, ⟨others, later, rfl⟩, rfl⟩
    refine ⟨_, readFrom_cons_eq_ok_iff.mpr ⟨following, step, others, later, rfl⟩, ?_⟩
    rw [List.map_append, Completes.map_plain_finished]

/-- At the margin nothing is remembered, so it makes no difference where it is. -/
theorem at_margin (run : Says .margin offset text said) (offset' : Nat) :
    Says .margin offset' text said := by
  rcases run with ⟨found, run, rfl⟩
  have completes : Completes true text (found.map Statement.plain) .margin :=
    Completes.of_readFrom run
  exact Reads.whole completes.1 offset'

/-- A step back to the margin completes the statement. -/
theorem of_margin (back : place.next offset c = some .margin)
    (run : Says place offset (c :: rest) said) :
    ∃ later, Says .margin (offset + c.utf8Size) rest later ∧ said = place.pending ++ later := by
  rcases cons_iff.mp run with ⟨following, step, later, remaining, rfl⟩
  rw [back] at step
  cases step
  exact ⟨later, remaining, rfl⟩

/-- A return always leads back to the margin. -/
theorem next_return (ends : isReturn c = true) (run : Says place offset (c :: rest) said) :
    place.next offset c = some .margin ∧ ∀ offset', place.next offset' '\n' = some .margin := by
  rcases cons_iff.mp run with ⟨following, step, -⟩
  rcases Place.next_lineEnd (isLineEnd_of_isReturn ends) step with ⟨rfl, feeds⟩ | ⟨within, -⟩
  · exact ⟨step, feeds⟩
  · exact absurd ends (Bool.eq_false_iff.mp within)

/-- A carriage return and a line feed lead back to the margin together. -/
theorem of_pair (run : Says place offset ('\r' :: '\n' :: rest) said) :
    (∀ offset', place.next offset' '\n' = some .margin) ∧
      passedOver place offset ('\r' :: '\n' :: rest) = passedOver .margin (offset + 2) rest ∧
      ∃ later, Says .margin (offset + 2) rest later ∧ said = place.pending ++ later := by
  rcases next_return rfl run with ⟨back, feeds⟩
  rcases of_margin back run with ⟨later, remaining, rfl⟩
  have stays : ∀ offset', Place.next offset' '\n' .margin = some .margin := fun _ => rfl
  rcases of_margin (stays _) remaining with ⟨later, remaining, rfl⟩
  refine ⟨feeds, ?_, later, remaining, rfl⟩
  rw [passedOver_cons back, passedOver_cons (stays _)]
  rfl

/-- A text of which no line end is passed over says the same with line feeds. -/
theorem completes_lineFeeds {longest : Bool} (run : Says place offset text said)
    (seen : passedOver place offset text = []) : Completes longest (lineFeeds text) said place := by
  induction text using lineFeeds.induct generalizing place offset said with
  | case1 =>
    rcases nil_iff.mp run with ⟨ends, rfl⟩
    exact Completes.nil ends
  | case2 rest ih =>
    rcases of_pair run with ⟨feeds, passed, later, remaining, rfl⟩
    rw [passed] at seen
    exact Completes.step (feeds offset) (ih remaining seen)
  | case3 c rest alone ih =>
    rw [lineFeeds.eq_3 c rest alone]
    rcases cons_iff.mp run with ⟨following, step, later, remaining, rfl⟩
    rw [passedOver_cons step, List.append_eq_nil_iff] at seen
    rcases seen with ⟨here, seen⟩
    split
    · rename_i ends
      rcases Place.next_lineEnd ends step with ⟨rfl, feeds⟩ | ⟨-, away, -⟩
      · exact Completes.step (feeds offset) (ih remaining seen)
      · rw [if_pos ⟨ends, away⟩] at here
        contradiction
    · exact Completes.step step (ih remaining seen)

/-! ## What is said beyond -/

theorem of_feed (run : Says place offset ('\n' :: rest) said) (offset' : Nat) :
    ∃ later, Says .margin offset' rest later ∧ said = place.pending ++ later := by
  rcases of_margin (next_return rfl run).1 run with ⟨later, remaining, rfl⟩
  exact ⟨later, remaining.at_margin offset', rfl⟩

/-- A reader is in a comment, where it says nothing, or at the same place as another. -/
def Follows (place other : Place) (offset offset' : Nat) : Prop :=
  place = .comment ∨ other = place ∧ offset' = offset

theorem Follows.pending_sublist (follows : Follows place other offset offset') :
    place.pending.Sublist other.pending := by
  rcases follows with rfl | ⟨rfl, -⟩
  · exact List.nil_sublist _
  · exact List.Sublist.refl _

/-- If a text and the same text with line feeds both say something, the latter says all that the
former says, and line ends are passed over in comments only. -/
theorem sublist_lineFeeds (follows : Follows place other offset offset')
    (run : Says place offset text said) (run' : Says other offset' (lineFeeds text) said') :
    said.Sublist said' ∧ ∀ passed ∈ passedOver place offset text, passed.1 = .comment := by
  induction text using lineFeeds.induct generalizing place other offset offset' said said' with
  | case1 =>
    rcases nil_iff.mp run with ⟨-, rfl⟩
    rcases nil_iff.mp run' with ⟨-, rfl⟩
    exact ⟨follows.pending_sublist, List.forall_mem_nil _⟩
  | case2 rest ih =>
    rcases of_pair run with ⟨-, passed, later, remaining, rfl⟩
    rcases of_feed run' (offset + 2) with ⟨later', remaining', rfl⟩
    rcases ih (Or.inr ⟨rfl, rfl⟩) remaining remaining' with ⟨sublist, others⟩
    rw [passed]
    exact ⟨follows.pending_sublist.append sublist, others⟩
  | case3 c rest alone ih =>
    rw [lineFeeds.eq_3 c rest alone] at run'
    rcases cons_iff.mp run with ⟨following, step, later, remaining, rfl⟩
    rw [forall_mem_passedOver_cons step]
    by_cases ends : isLineEnd c = true
    · rw [if_pos ends] at run'
      rcases of_feed run' (offset + c.utf8Size) with ⟨later', remaining', rfl⟩
      rcases Place.next_lineEnd ends step with ⟨rfl, -⟩ | ⟨within, away, encloses⟩
      · -- Both readers are at the margin.
        rcases ih (Or.inr ⟨rfl, rfl⟩) remaining remaining' with ⟨sublist, others⟩
        exact ⟨follows.pending_sublist.append sublist, fun _ away => absurd rfl away, others⟩
      · cases encloses with
        | comment =>
          -- Only the reader of line feeds leaves the comment, and may say more from here on.
          obtain rfl := Place.next_comment_of_not_isReturn within step
          rcases ih (Or.inl rfl) remaining remaining' with ⟨sublist, others⟩
          exact ⟨List.sublist_append_of_sublist_right sublist, fun _ _ => rfl, others⟩
        | terminal =>
          rcases follows with comment | ⟨rfl, -⟩
          · contradiction
          · rcases cons_iff.mp run' with ⟨_, impossible, -⟩
            contradiction
    · rw [if_neg ends] at run'
      rcases cons_iff.mp run' with ⟨following', step', later', remaining', rfl⟩
      rcases follows with rfl | ⟨rfl, rfl⟩
      · have within : isReturn c = false :=
          Bool.eq_false_iff.mpr fun returns => ends (isLineEnd_of_isReturn returns)
        obtain rfl := Place.next_comment_of_not_isReturn within step
        rcases ih (Or.inl rfl) remaining remaining' with ⟨sublist, others⟩
        refine ⟨List.sublist_append_of_sublist_right sublist, ?_, others⟩
        exact fun impossible => absurd impossible ends
      · rw [step] at step'
        cases step'
        rcases ih (Or.inr ⟨rfl, rfl⟩) remaining remaining' with ⟨sublist, others⟩
        exact ⟨sublist.append_left _, fun impossible => absurd impossible ends, others⟩

end Says

/-- **Line ends.**  In a definition that can be read, each line end leads back to the margin and so
ends the statement or the comment that it is in, except for those in comments and terminals that are
neither carriage returns nor line feeds.  Without such exceptions, the definition says the same with
line feeds for all line ends.  With line feeds it can be read at most if the exceptions are all in
comments; and then it says what it said before, and perhaps something in between. -/
theorem line_ends_mean_the_same (definition : String) (statements : List Statement)
    (readable : read definition = .ok statements) :
    (∀ passed ∈ passedOver .margin 0 definition.toList,
      isReturn passed.2 = false ∧ passed.1.Encloses) ∧
      (passedOver .margin 0 definition.toList = [] →
        ∃ others, read (withLineFeeds definition) = .ok others ∧
          others.map Statement.plain = statements.map Statement.plain) ∧
      ∀ others, read (withLineFeeds definition) = .ok others →
        (∀ passed ∈ passedOver .margin 0 definition.toList, passed.1 = .comment) ∧
          (statements.map Statement.plain).Sublist (others.map Statement.plain) := by
  have run : Says .margin 0 definition.toList (statements.map Statement.plain) :=
    ⟨statements, (read_eq_readFrom definition).symm.trans readable, rfl⟩
  refine ⟨fun _ => of_mem_passedOver, ?_, ?_⟩
  · intro seen
    have completes : Completes true (lineFeeds definition.toList) _ .margin :=
      run.completes_lineFeeds seen
    have written := completes.1
    rw [← String.toList_ofList (l := lineFeeds definition.toList)] at written
    rcases Reads.whole written 0 with ⟨others, run', agrees⟩
    exact ⟨others, (read_eq_readFrom _).trans run', agrees⟩
  · intro others readable'
    have run' : Says .margin 0 (lineFeeds definition.toList) (others.map Statement.plain) := by
      rw [← String.toList_ofList (l := lineFeeds definition.toList)]
      exact ⟨others, (read_eq_readFrom _).symm.trans readable', rfl⟩
    rcases Says.sublist_lineFeeds (Or.inr ⟨rfl, rfl⟩) run run' with ⟨sublist, comments⟩
    exact ⟨comments, sublist⟩

/-- A comment that ends in a carriage return and a line feed, and a rule before a vertical tab. -/
theorem line_ends_mean_the_same_of_vertical_tab :
    ∃ statements others, read "A -> B # c\r\nB -> \"b\"\x0b" = .ok statements ∧
      withLineFeeds "A -> B # c\r\nB -> \"b\"\x0b" = "A -> B # c\nB -> \"b\"\n" ∧
      read (withLineFeeds "A -> B # c\r\nB -> \"b\"\x0b") = .ok others ∧
      others.map Statement.plain = statements.map Statement.plain ∧
      statements.map Statement.plain =
        [.rule "A" [[.nonterminal "B"]], .rule "B" [[.terminal "b"]]] := by
  have readable : ∃ statements, read "A -> B # c\r\nB -> \"b\"\x0b" = .ok statements ∧
      statements.map Statement.plain =
        [.rule "A" [[.nonterminal "B"]], .rule "B" [[.terminal "b"]]] :=
    ⟨_, (read_eq_readFrom _).trans rfl, rfl⟩
  rcases readable with ⟨statements, readable, said⟩
  rcases (line_ends_mean_the_same _ statements readable).2.1 (by decide +kernel) with
    ⟨others, readable', same⟩
  exact ⟨statements, others, readable, by decide +kernel, readable', same, said⟩

/-- A comment goes on behind a line end, and swallows a rule; and a terminal stands on two lines. -/
theorem vertical_tab_is_passed_over :
    (∃ statements others, read "S -> A # note\x0bA -> \"a\"" = .ok statements ∧
      read (withLineFeeds "S -> A # note\x0bA -> \"a\"") = .ok others ∧
      statements.map Statement.plain = [.rule "S" [[.nonterminal "A"]]] ∧
      others.map Statement.plain =
        [.rule "S" [[.nonterminal "A"]], .rule "A" [[.terminal "a"]]]) ∧
      (∃ statements, read "S -> \"a\x0bb\"" = .ok statements) ∧
      ∃ error, read (withLineFeeds "S -> \"a\x0bb\"") = .error error := by
  simp only [read_eq_readFrom]
  exact ⟨⟨_, _, rfl, rfl, rfl, rfl⟩, ⟨_, rfl⟩, _, rfl⟩

end Cyk.Definition
