import Cyk.Proofs.Definition.LineEnds
import Cyk.Proofs.Definition.Viability

/-!
# Blanks beside separators

Blanks at either end of a definition, or on either side of what separates two statements, say
nothing.  Only a semicolon that nothing stands before, at the beginning of the text or right behind
another separator, has to stay where it is: behind blanks it is an error.
-/

namespace Cyk.Definition

open Text

/-- How far a reader comes: the place behind a text, and what has been said on the way there. -/
def progress (place : Place) (offset : Nat) : List Char → Option (Place × List PlainStatement)
  | [] => some (place, [])
  | c :: rest => do
    let following ← place.next offset c
    let (reached, said) ← progress following (offset + c.utf8Size) rest
    return (reached, Completes.ended place following ++ said)

/-- A character separates statements at a place: a line end or a semicolon outside comments and
terminals, or the return that ends a comment. -/
def Place.SeparatedBy (place : Place) (c : Char) : Prop :=
  (isLineEnd c = true ∨ c = ';') ∧ (place.Encloses → place = .comment ∧ isReturn c = true)

/-- A text that is empty or ends in a separator. -/
def BehindSeparator (front : List Char) : Prop :=
  front = [] ∨ ∃ before c place said, front = before ++ [c] ∧
    progress .margin 0 before = some (place, said) ∧ place.SeparatedBy c

/-- The second part of a text is empty or begins with a separator. -/
def BeforeSeparator (front back : List Char) : Prop :=
  back = [] ∨ ∃ c rest place said, back = c :: rest ∧
    progress .margin 0 front = some (place, said) ∧ place.SeparatedBy c

/-- The place that blanks lead to, where a text may end or a separator may come. -/
def Place.rested : Place → Place
  | .margin => .indented
  | .rightName rule name => .afterSymbol (rule.add (.nonterminal name))
  | .startName name => .afterStartName name
  | place => place

/-! ## How far a reader comes -/

section Progress

variable {place reached following : Place} {offset : Nat} {c : Char} {front back text : List Char}
  {said : List PlainStatement}

theorem progress_cons_eq_some_iff :
    progress place offset (c :: text) = some (reached, said) ↔
      ∃ following, place.next offset c = some following ∧
        ∃ later, progress following (offset + c.utf8Size) text = some (reached, later) ∧
          said = Completes.ended place following ++ later := by
  rw [progress]
  cases place.next offset c with
  | none => simp
  | some following =>
    simp only [Option.bind_eq_bind, Option.bind_some, Option.some.injEq, exists_eq_left']
    cases progress following (offset + c.utf8Size) text with
    | none => simp
    | some pair => simp [Prod.ext_iff, eq_comm, and_assoc]

theorem progress_append_eq_some_iff :
    progress place offset (front ++ back) = some (reached, said) ↔
      ∃ middle early, progress place offset front = some (middle, early) ∧
        ∃ later, progress middle (offset + byteLength front) back = some (reached, later) ∧
          said = early ++ later := by
  induction front generalizing place offset said with
  | nil => simp [progress, and_assoc]
  | cons c front ih =>
    simp only [List.cons_append, progress_cons_eq_some_iff, ih, byteLength_cons, Nat.add_assoc]
    constructor
    · rintro ⟨following, step, _, ⟨middle, early, first, later, second, rfl⟩, rfl⟩
      exact ⟨middle, _, ⟨following, step, early, first, rfl⟩, later, second, by simp⟩
    · rintro ⟨middle, _, ⟨following, step, early, first, rfl⟩, later, second, rfl⟩
      exact ⟨following, step, _, ⟨middle, early, first, later, second, rfl⟩, by simp⟩

theorem progress_singleton_eq_some_iff :
    progress place offset [c] = some (reached, said) ↔
      place.next offset c = some reached ∧ said = Completes.ended place reached := by
  rw [progress_cons_eq_some_iff]
  constructor
  · rintro ⟨following, step, later, here, rfl⟩
    cases here
    exact ⟨step, List.append_nil _⟩
  · rintro ⟨step, rfl⟩
    exact ⟨reached, step, [], rfl, (List.append_nil _).symm⟩

/-- What is read says what has been said on the way, and the statement that its end completes. -/
theorem says_iff_progress :
    Says place offset text said ↔
      ∃ reached early, progress place offset text = some (reached, early) ∧
        reached.mayEnd = true ∧ said = early ++ reached.pending := by
  induction text generalizing place offset said with
  | nil => simp [Says.nil_iff, progress, and_assoc]
  | cons c text ih =>
    simp only [Says.cons_iff, ih, progress_cons_eq_some_iff]
    constructor
    · rintro ⟨following, step, _, ⟨reached, early, come, ends, rfl⟩, rfl⟩
      exact ⟨reached, _, ⟨following, step, early, come, rfl⟩, ends, by simp⟩
    · rintro ⟨reached, _, ⟨following, step, early, come, rfl⟩, ends, rfl⟩
      exact ⟨following, step, _, ⟨reached, early, come, ends, rfl⟩, by simp⟩

theorem says_append_iff :
    Says place offset (front ++ back) said ↔
      ∃ middle early, progress place offset front = some (middle, early) ∧
        ∃ later, Says middle (offset + byteLength front) back later ∧ said = early ++ later := by
  simp only [says_iff_progress, progress_append_eq_some_iff]
  constructor
  · rintro ⟨reached, _, ⟨middle, early, first, later, second, rfl⟩, ends, rfl⟩
    exact ⟨middle, early, first, _, ⟨reached, later, second, ends, rfl⟩, by simp⟩
  · rintro ⟨middle, early, first, _, ⟨reached, later, second, ends, rfl⟩, rfl⟩
    exact ⟨reached, _, ⟨middle, early, first, later, second, rfl⟩, ends, by simp⟩

/-- An error behind a text that can be read so far is the error of the whole. -/
theorem readFrom_append_eq_error {error : SyntaxError}
    (come : progress place offset front = some (reached, said))
    (failed : readFrom reached (offset + byteLength front) back = .error error) :
    readFrom place offset (front ++ back) = .error error := by
  induction front generalizing place offset said with
  | nil =>
    cases come
    exact failed
  | cons c front ih =>
    rcases progress_cons_eq_some_iff.mp come with ⟨following, step, later, come, -⟩
    rw [byteLength_cons, ← Nat.add_assoc] at failed
    exact readFrom_cons_eq_error_iff.mpr (Or.inr ⟨following, step, ih come failed⟩)

end Progress

/-! ## Where separators and blanks may come -/

namespace Place

variable {place following : Place} {offset offset' : Nat} {c : Char}

theorem mayEnd_rested (place : Place) : place.rested.mayEnd = place.mayEnd := by
  cases place <;> rfl

@[simp]
theorem rested_rested (place : Place) : place.rested.rested = place.rested := by
  cases place <;> rfl

@[simp]
theorem pending_rested (place : Place) : place.rested.pending = place.pending := by
  cases place <;> rfl

@[simp]
theorem ended_rested (place : Place) : Completes.ended place place.rested = [] := by
  cases place <;> rfl

/-- The places from which a character leads to the margin: between statements, at the end of a
comment, and where blanks make a statement complete. -/
theorem of_next_margin (step : place.next offset c = some .margin) :
    (place = .margin ∧ (isLineEnd c = true ∨ c = ';')) ∨
      (place = .indented ∧ isLineEnd c = true) ∨ (place = .comment ∧ isReturn c = true) ∨
        (Completed place.rested ∧ (isLineEnd c = true ∨ c = ';')) := by
  cases place with
  | margin => grind [next_margin_eq_some_iff, opening_eq_some_iff]
  | indented => grind [next, opening_eq_some_iff]
  | comment => grind [next_comment_eq_some_iff]
  | rightName rule name =>
    have complete : Completed (rested (.rightName rule name)) := Reads.completed_afterSymbol
    grind [next_rightName_eq_some_iff, continueRule_eq_some_iff, beginSymbol_eq_some_iff,
      separated_eq_some_iff]
  | afterSymbol rule =>
    have complete : Completed (rested (.afterSymbol rule)) := Reads.completed_afterSymbol
    grind [next, continueRule_eq_some_iff, beginSymbol_eq_some_iff, separated_eq_some_iff]
  | startName name =>
    have complete : Completed (rested (.startName name)) := Reads.completed_afterStartName
    grind [next_startName_eq_some_iff, next_afterStartName_eq_some_iff, separated_eq_some_iff]
  | afterStartName name =>
    have complete : Completed (rested (.afterStartName name)) := Reads.completed_afterStartName
    grind [next_afterStartName_eq_some_iff, separated_eq_some_iff]
  | leftName name => grind [next_leftName_eq_some_iff, afterName_eq_some_iff]
  | afterLeftName name => grind [next, afterName_eq_some_iff]
  | arrow lhs => grind [next_arrow_eq_some_iff]
  | alternative rule => grind [next_alternative_eq_some_iff, beginSymbol_eq_some_iff]
  | terminal rule content => grind [next_terminal_eq_some_iff]
  | colon => grind [next_colon_eq_some_iff]

/-- A semicolon leads back to the margin, unless it is passed over in a comment or a terminal. -/
theorem next_semicolon (step : place.next offset ';' = some following) :
    following = .margin ∨ place.Encloses := by
  have continues : isIdentifierContinue ';' = false := (of_mem_signs (by decide)).2
  cases place with
  | comment => exact Or.inr .comment
  | terminal rule content => exact Or.inr .terminal
  | margin => grind [next_margin_eq_some_iff, opening_eq_some_iff, signs]
  | indented => grind [next, opening_eq_some_iff, signs]
  | rightName rule name =>
    grind [next_rightName_eq_some_iff, continueRule_eq_some_iff, beginSymbol_eq_some_iff,
      separated_eq_some_iff, signs]
  | afterSymbol rule =>
    grind [next, continueRule_eq_some_iff, beginSymbol_eq_some_iff, separated_eq_some_iff, signs]
  | startName name =>
    grind [next_startName_eq_some_iff, next_afterStartName_eq_some_iff, separated_eq_some_iff,
      signs]
  | afterStartName name =>
    grind [next_afterStartName_eq_some_iff, separated_eq_some_iff, signs]
  | leftName name => grind [next_leftName_eq_some_iff, afterName_eq_some_iff, signs]
  | afterLeftName name => grind [next, afterName_eq_some_iff, signs]
  | arrow lhs => grind [next_arrow_eq_some_iff]
  | alternative rule =>
    grind [next_alternative_eq_some_iff, beginSymbol_eq_some_iff, signs]
  | colon => grind [next_colon_eq_some_iff, signs]

/-- Separators are what leads to the margin. -/
theorem next_eq_margin_iff (step : place.next offset c = some following) :
    following = .margin ↔ place.SeparatedBy c := by
  constructor
  · rintro rfl
    rcases of_next_margin step with
      ⟨rfl, separator⟩ | ⟨rfl, ends⟩ | ⟨rfl, returns⟩ | ⟨complete, separator⟩
    · exact ⟨separator, nofun⟩
    · exact ⟨Or.inl ends, nofun⟩
    · exact ⟨Or.inl (isLineEnd_of_isReturn returns), fun _ => ⟨rfl, returns⟩⟩
    · refine ⟨separator, fun encloses => ?_⟩
      cases encloses with
      | comment => exact absurd rfl (Bool.eq_false_iff.mp complete.inner)
      | terminal => exact absurd complete.mayEnd Bool.false_ne_true
  · rintro ⟨ends | rfl, outside⟩
    · rcases Place.next_lineEnd ends step with ⟨back, -⟩ | ⟨within, -, encloses⟩
      · exact back
      · exact absurd (outside encloses).2 (Bool.eq_false_iff.mp within)
    · rcases next_semicolon step with back | encloses
      · exact back
      · exact absurd (outside encloses).2 Bool.false_ne_true

/-- The text may end wherever a separator may come. -/
theorem mayEnd_of_next_margin (step : place.next offset c = some .margin) :
    place.mayEnd = true := by
  rcases of_next_margin step with ⟨rfl, -⟩ | ⟨rfl, -⟩ | ⟨rfl, -⟩ | ⟨complete, -⟩
  · rfl
  · rfl
  · rfl
  · rw [← mayEnd_rested]
    exact complete.mayEnd

/-- Behind blanks the same separators may come, except for semicolons at the margin. -/
theorem next_rested (step : place.next offset c = some .margin)
    (kept : place = .margin → c ≠ ';') : place.rested.next offset' c = some .margin := by
  rcases of_next_margin step with
    ⟨rfl, separator⟩ | ⟨rfl, ends⟩ | ⟨rfl, returns⟩ | ⟨complete, ends | rfl⟩
  · exact Reads.separates_indented.lineEnd offset' c (separator.resolve_right (kept rfl))
  · exact Reads.separates_indented.lineEnd offset' c ends
  · exact next_comment_eq_some_iff.mpr (Or.inl ⟨returns, rfl⟩)
  · exact complete.lineEnd offset' c ends
  · exact complete.semicolon offset'

/-- Blanks are understood wherever the text may end. -/
theorem next_blank (ends : place.mayEnd = true) (blank : isInlineBlank c = true) :
    place.next offset c = some place.rested := by
  rcases of_isInlineBlank blank with ⟨notEnd, -, -, other⟩
  have patient {after : Place} (complete : Completed after) : after.next offset c = some after :=
    complete.blank offset c blank
  cases place with
  | margin =>
    exact next_margin_eq_some_iff.mpr (Or.inr (opening_eq_some_iff.mpr (Or.inl ⟨blank, rfl⟩)))
  | indented => exact Reads.patient_indented.blank offset c blank
  | comment =>
    have within : isReturn c = false :=
      Bool.eq_false_iff.mpr fun returns =>
        Bool.eq_false_iff.mp notEnd (isLineEnd_of_isReturn returns)
    exact next_comment_eq_some_iff.mpr (Or.inr ⟨within, rfl⟩)
  | rightName rule name =>
    exact (Reads.collectsName_rightName.same offset c name other).trans
      (patient Reads.completed_afterSymbol)
  | afterSymbol rule => exact patient Reads.completed_afterSymbol
  | startName name =>
    exact (Reads.collectsName_startName.same offset c name other).trans
      (patient Reads.completed_afterStartName)
  | afterStartName name => exact patient Reads.completed_afterStartName
  | leftName | afterLeftName | arrow | alternative | terminal | colon => contradiction

end Place

/-! ## Blanks between two parts of a text -/

theorem eq_margin_iff_behindSeparator {front : List Char} {place : Place}
    {said : List PlainStatement} (come : progress .margin 0 front = some (place, said)) :
    place = .margin ↔ BehindSeparator front := by
  constructor
  · rintro rfl
    rcases List.eq_nil_or_concat front with empty | ⟨before, c, rfl⟩
    · exact Or.inl empty
    · rw [List.concat_eq_append, progress_append_eq_some_iff] at come
      rcases come with ⟨last, early, come, later, step, -⟩
      have step := (progress_singleton_eq_some_iff.mp step).1
      exact Or.inr ⟨before, c, last, early, List.concat_eq_append, come,
        (Place.next_eq_margin_iff step).mp rfl⟩
  · rintro (rfl | ⟨before, c, last, early, rfl, come', separated⟩)
    · cases come
      rfl
    · rcases progress_append_eq_some_iff.mp come with ⟨last', early', come'', later, step, -⟩
      obtain ⟨rfl, rfl⟩ := Prod.mk.inj (Option.some.inj (come'.symm.trans come''))
      exact (Place.next_eq_margin_iff (progress_singleton_eq_some_iff.mp step).1).mpr separated

/-- Blanks say nothing, and lead to the place where a reader rests. -/
theorem progress_blanks {place : Place} {offset : Nat} {blanks : List Char}
    (blank : ∀ c ∈ blanks, isInlineBlank c = true) (nonempty : blanks ≠ [])
    (ends : place.mayEnd = true) :
    progress place offset blanks = some (place.rested, []) := by
  induction blanks generalizing place offset with
  | nil => exact absurd rfl nonempty
  | cons c rest ih =>
    rcases List.forall_mem_cons.mp blank with ⟨here, others⟩
    have step : place.next offset c = some place.rested := Place.next_blank ends here
    apply progress_cons_eq_some_iff.mpr
    refine ⟨place.rested, step, [], ?_, by rw [Place.ended_rested, List.append_nil]⟩
    cases rest with
    | nil => rfl
    | cons d rest =>
      have ends' : place.rested.mayEnd = true := (Place.mayEnd_rested place).trans ends
      rw [ih others (List.cons_ne_nil d rest) ends', Place.rested_rested]

/-- Where a separator may come, what is read is read behind blanks too, unless it begins with a
semicolon at the margin. -/
theorem Says.rested {place : Place} {offset : Nat} {back : List Char} {said : List PlainStatement}
    (run : Says place offset back said)
    (awaits : place = .margin ∨ back = [] ∨
      ∃ c rest, back = c :: rest ∧ place.next offset c = some .margin)
    (kept : place = .margin → back.head? ≠ some ';') (offset' : Nat) :
    Says place.rested offset' back said := by
  cases back with
  | nil =>
    rcases nil_iff.mp run with ⟨ends, rfl⟩
    exact nil_iff.mpr ⟨(Place.mayEnd_rested place).trans ends, (Place.pending_rested place).symm⟩
  | cons c rest =>
    rcases awaits with rfl | impossible | ⟨_, _, same, step⟩
    · rcases cons_iff.mp (run.at_margin offset') with ⟨following, step, later, remaining, rfl⟩
      rcases Place.next_margin_eq_some_iff.mp step with ⟨rfl, -⟩ | opened
      · exact absurd rfl (kept rfl)
      · exact cons_iff.mpr ⟨following, opened, later, remaining, rfl⟩
    · contradiction
    · cases same
      rcases of_margin step run with ⟨later, remaining, rfl⟩
      have leads : place.rested.next offset' c = some .margin :=
        Place.next_rested step fun margin semicolon => kept margin (congrArg some semicolon)
      refine cons_iff.mpr ⟨.margin, leads, later, remaining.at_margin _, ?_⟩
      rw [← Place.pending_rested]
      rfl

section Blanks

variable {front blanks back : List Char} {said : List PlainStatement}
  (blank : ∀ c ∈ blanks, isInlineBlank c = true) (nonempty : blanks ≠ [])

include blank nonempty

theorem says_insert_blanks (run : Says .margin 0 (front ++ back) said)
    (beside : BehindSeparator front ∨ BeforeSeparator front back)
    (kept : BehindSeparator front → back.head? ≠ some ';') :
    Says .margin 0 (front ++ (blanks ++ back)) said := by
  rcases says_append_iff.mp run with ⟨place, early, come, later, remaining, rfl⟩
  rw [Nat.zero_add] at remaining
  have margin := eq_margin_iff_behindSeparator come
  have awaits : place = .margin ∨ back = [] ∨
      ∃ c rest, back = c :: rest ∧ place.next (byteLength front) c = some .margin := by
    rcases beside with behind | empty | ⟨c, rest, place', early', rfl, come', separated⟩
    · exact Or.inl (margin.mpr behind)
    · exact Or.inr (Or.inl empty)
    · obtain ⟨rfl, rfl⟩ := Prod.mk.inj (Option.some.inj (come.symm.trans come'))
      rcases Says.cons_iff.mp remaining with ⟨following, step, -⟩
      obtain rfl := (Place.next_eq_margin_iff step).mpr separated
      exact Or.inr (Or.inr ⟨c, rest, rfl, step⟩)
  have ends : place.mayEnd = true := by
    rcases awaits with rfl | rfl | ⟨c, rest, -, step⟩
    · rfl
    · exact (Says.nil_iff.mp remaining).1
    · exact Place.mayEnd_of_next_margin step
  have rest := remaining.rested awaits (fun here => kept (margin.mp here))
  refine says_append_iff.mpr ⟨place, early, come, later, ?_, rfl⟩
  exact says_append_iff.mpr ⟨place.rested, [], progress_blanks blank nonempty ends, later,
    rest _, rfl⟩

theorem readFrom_semicolon_behind_blanks
    (come : progress .margin 0 front = some (.margin, said)) (rest : List Char) :
    readFrom .margin 0 (front ++ (blanks ++ ';' :: rest)) =
      .error ⟨some ';', Place.expected false .indented,
        ⟨byteLength front + byteLength blanks, byteLength front + byteLength blanks + 1⟩⟩ := by
  apply readFrom_append_eq_error come
  apply readFrom_append_eq_error (progress_blanks blank nonempty rfl)
  rw [Nat.zero_add]
  exact readFrom_cons_eq_error_iff.mpr (Or.inl ⟨rfl, rfl⟩)

end Blanks

/-- **Blanks beside separators.**  Spaces and tabs at the beginning or the end of a definition, or
right before or behind what separates statements, leave it a definition that says the same.  There
is one exception, and there they always make an error: in front of a semicolon that stands at the
beginning or right behind another separator. -/
theorem blanks_beside_separators_say_nothing (front blanks back : String)
    (statements : List Statement) (readable : read (front ++ back) = .ok statements)
    (blank : ∀ c ∈ blanks.toList, isInlineBlank c = true)
    (beside : BehindSeparator front.toList ∨ BeforeSeparator front.toList back.toList) :
    (blanks = "" ∨ ¬ BehindSeparator front.toList ∨ back.toList.head? ≠ some ';' →
      ∃ others, read (front ++ blanks ++ back) = .ok others ∧
        others.map Statement.plain = statements.map Statement.plain) ∧
      (blanks ≠ "" → BehindSeparator front.toList → back.toList.head? = some ';' →
        ∃ error, read (front ++ blanks ++ back) = .error error ∧ error.found = some ';' ∧
          error.span.start = (front ++ blanks).utf8ByteSize) := by
  have run : Says .margin 0 (front.toList ++ back.toList) (statements.map Statement.plain) := by
    rw [← String.toList_append]
    exact ⟨statements, (read_eq_readFrom _).symm.trans readable, rfl⟩
  have letters : (front ++ blanks ++ back).toList =
      front.toList ++ (blanks.toList ++ back.toList) := by
    rw [String.toList_append, String.toList_append, List.append_assoc]
  constructor
  · intro kept
    by_cases none : blanks = ""
    · refine ⟨statements, ?_, rfl⟩
      rwa [none, String.append_empty]
    · have nonempty : blanks.toList ≠ [] := mt String.toList_eq_nil_iff.mp none
      have inserted := says_insert_blanks blank nonempty run beside fun behind =>
        (kept.resolve_left none).resolve_left (not_not_intro behind)
      rw [← letters] at inserted
      rcases inserted with ⟨others, run, agrees⟩
      exact ⟨others, (read_eq_readFrom _).trans run, agrees⟩
  · intro some behind semicolon
    have nonempty : blanks.toList ≠ [] := mt String.toList_eq_nil_iff.mp some
    rcases says_append_iff.mp run with ⟨place, early, come, -⟩
    obtain rfl := (eq_margin_iff_behindSeparator come).mpr behind
    rcases List.head?_eq_some_iff.mp semicolon with ⟨rest, first⟩
    have failed := readFrom_semicolon_behind_blanks blank nonempty come rest
    rw [← first, ← letters] at failed
    refine ⟨_, (read_eq_readFrom _).trans failed, rfl, ?_⟩
    rw [← byteLength_append, ← utf8ByteSize_ofList, ← String.toList_append, String.ofList_toList]

/-- Blanks in front of the line end behind a comment. -/
theorem blanks_beside_separators_say_nothing_of_comment :
    ∃ statements others, read ("A -> B # c" ++ "\r\n;B -> \"b\"") = .ok statements ∧
      BeforeSeparator "A -> B # c".toList "\r\n;B -> \"b\"".toList ∧
      read ("A -> B # c" ++ "\t " ++ "\r\n;B -> \"b\"") = .ok others ∧
      others.map Statement.plain = statements.map Statement.plain ∧
      statements.map Statement.plain =
        [.rule "A" [[.nonterminal "B"]], .rule "B" [[.terminal "b"]]] := by
  have readable : ∃ statements, read ("A -> B # c" ++ "\r\n;B -> \"b\"") = .ok statements ∧
      statements.map Statement.plain =
        [.rule "A" [[.nonterminal "B"]], .rule "B" [[.terminal "b"]]] :=
    ⟨_, (read_eq_readFrom _).trans rfl, rfl⟩
  have before : BeforeSeparator "A -> B # c".toList "\r\n;B -> \"b\"".toList :=
    Or.inr ⟨'\r', _, .comment, _, rfl, rfl, Or.inl rfl, fun _ => ⟨rfl, rfl⟩⟩
  rcases readable with ⟨statements, readable, said⟩
  rcases (blanks_beside_separators_say_nothing "A -> B # c" "\t " _ statements readable
    (List.all_eq_true.mp (by decide)) (Or.inr before)).1 (Or.inr (Or.inr (by decide))) with
    ⟨others, readable', same⟩
  exact ⟨statements, others, readable, before, readable', same, said⟩

/-- Two semicolons in a row, and one at the beginning, cannot have a blank before them. -/
theorem semicolon_behind_blank_is_refused :
    (∃ statements error, read ("S -> A;" ++ ";A -> \"a\"") = .ok statements ∧
      BehindSeparator "S -> A;".toList ∧
      read ("S -> A;" ++ " " ++ ";A -> \"a\"") = .error error ∧ error.span = ⟨8, 9⟩) ∧
      ∃ statements error, read ";S -> A" = .ok statements ∧ read " ;S -> A" = .error error ∧
        error.span = ⟨1, 2⟩ := by
  simp only [read_eq_readFrom]
  exact ⟨⟨_, _, rfl, Or.inr ⟨"S -> A".toList, ';', _, _, rfl, rfl, Or.inr rfl, nofun⟩, rfl, rfl⟩,
    _, _, rfl, rfl, rfl⟩

end Cyk.Definition
