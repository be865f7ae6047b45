import Cyk.Proofs.Definition.Separation

/-!
# Whatever has the shape of a definition is read

Names, symbols, right sides and statements, each from the place where it may begin.  Where one is
over, the reader is at a place that remembers what it was.
-/

namespace Cyk.Definition

open Text

/-- Characters of a class make the slice at a place longer. -/
structure Collects (placeOf : Slice → Place) (collected : Char → Prop) : Prop where
  grows : ∀ offset c slice, collected c →
    (placeOf slice).next offset c = some (placeOf (slice.push c))
  inner : ∀ slice, (placeOf slice).isBetween = false

/-- A name is collected at one place, and at the other one it is over. -/
structure CollectsName (placeOf settledOf : Slice → Place) : Prop
    extends Collects placeOf (isIdentifierContinue · = true) where
  same : ∀ offset c slice, isIdentifierContinue c = false →
    (placeOf slice).next offset c = (settledOf slice).next offset c
  statement_eq : ∀ slice, (placeOf slice).statement? = (settledOf slice).statement?
  mayEnd_eq : ∀ slice, (placeOf slice).mayEnd = (settledOf slice).mayEnd

/-- A name may begin at a place. -/
def BeginsName (place : Place) (placeOf : Slice → Place) : Prop :=
  ∀ offset c, isIdentifierStart c = true →
    place.next offset c = some (placeOf ((Slice.startingAt offset).push c))

/-- A symbol of a rule may begin at a place. -/
def BeginsSymbol (place : Place) (rule : OpenRule) : Prop :=
  ∀ offset c following, Place.beginSymbol rule offset c = some following →
    place.next offset c = some following

namespace Reads

variable {longest : Bool} {place : Place} {text rest : List Char}
  {statements : List PlainStatement}

/-! ## Names -/

/-- Before a text that does not continue the name, the name is over. -/
theorem settle {placeOf settledOf : Slice → Place} (collects : CollectsName placeOf settledOf)
    {slice : Slice} (stops : ∀ c ∈ text.head?, isIdentifierContinue c = false)
    (later : Reads (settledOf slice) text statements) : Reads (placeOf slice) text statements := by
  intro offset
  rcases later offset with ⟨found, run, agrees⟩
  apply Exists.intro found
  constructor
  · cases text with
    | nil =>
      rw [readFrom_nil_eq_ok_iff] at run ⊢
      rw [collects.mayEnd_eq, collects.statement_eq]
      exact run
    | cons c rest =>
      rw [readFrom_cons_eq_ok_iff] at run ⊢
      rw [collects.same offset c slice (stops c rfl), collects.statement_eq]
      exact run
  · exact agrees

theorem collect {placeOf : Slice → Place} {collected : Char → Prop}
    (collects : Collects placeOf collected) {letters : List Char}
    (all : ∀ c ∈ letters, collected c) {slice : Slice}
    (later : Reads (placeOf (slice.extend letters)) rest statements) :
    Reads (placeOf slice) (letters ++ rest) statements := by
  induction letters generalizing slice with
  | nil => exact later
  | cons c letters ih =>
    rcases List.forall_mem_cons.mp all with ⟨here, others⟩
    exact inside (fun offset => collects.grows offset c slice here) (collects.inner _)
      (ih others later)

theorem name {placeOf settledOf : Slice → Place} (collects : CollectsName placeOf settledOf)
    (begins : BeginsName place placeOf) {spelled : String}
    (written : Shape.Name text spelled rest)
    (later : ∀ slice : Slice, slice.text = spelled → Reads (settledOf slice) rest statements) :
    Reads place text statements := by
  cases written with
  | @mk letters _ identifier stops =>
    cases letters with
    | nil => contradiction
    | cons c letters =>
      rcases Bool.and_eq_true_iff.mp identifier with ⟨starts, continues⟩
      apply insideAt (fun offset => begins offset c starts) (fun _ => collects.inner _)
      intro offset
      apply collect collects.toCollects (List.all_eq_true.mp continues)
      apply settle collects stops
      exact later _ (Slice.extend_startingAt_text offset (c :: letters))

/-! ## Symbols -/

variable {rule : OpenRule}

theorem completed_afterSymbol : Completed (.afterSymbol rule) where
  lineEnd _ _ ends := by
    rw [Place.next, Place.continueRule_eq_some_iff, Place.separated_eq_some_iff]
    exact Or.inr (Or.inr (Or.inr (Or.inl ⟨Or.inl ends, rfl⟩)))
  comment _ := by
    rw [Place.next, Place.continueRule_eq_some_iff, Place.separated_eq_some_iff]
    exact Or.inr (Or.inr (Or.inr (Or.inr ⟨rfl, rfl⟩)))
  blank _ _ blank := Place.continueRule_eq_some_iff.mpr (Or.inl ⟨blank, rfl⟩)
  inner := rfl
  semicolon _ := by
    rw [Place.next, Place.continueRule_eq_some_iff, Place.separated_eq_some_iff]
    exact Or.inr (Or.inr (Or.inr (Or.inl ⟨Or.inr rfl, rfl⟩)))
  mayEnd := rfl

theorem beginsSymbol_afterSymbol : BeginsSymbol (.afterSymbol rule) rule :=
  fun _ _ _ begun => Place.continueRule_eq_some_iff.mpr (Or.inr (Or.inr (Or.inl begun)))

theorem patient_alternative : Patient (.alternative rule) where
  blank _ _ blank := Place.next_alternative_eq_some_iff.mpr (Or.inl ⟨blank, rfl⟩)
  inner := rfl

theorem beginsSymbol_alternative : BeginsSymbol (.alternative rule) rule :=
  fun _ _ _ begun => Place.next_alternative_eq_some_iff.mpr (Or.inr begun)

theorem collectsName_rightName :
    CollectsName (.rightName rule) (fun name => .afterSymbol (rule.add (.nonterminal name))) where
  grows _ _ _ continues := Place.next_rightName_eq_some_iff.mpr (Or.inl ⟨continues, rfl⟩)
  inner _ := rfl
  same _ _ _ other := by simp [Place.next, other]
  statement_eq _ := rfl
  mayEnd_eq _ := rfl

theorem collects_terminal :
    Collects (.terminal rule) (fun c => c ≠ '"' ∧ isReturn c = false) where
  grows _ _ _ inside :=
    Place.next_terminal_eq_some_iff.mpr (Or.inr ⟨inside.1, inside.2, rfl⟩)
  inner _ := rfl

theorem symbol (begins : BeginsSymbol place rule) {said : PlainSymbol}
    (written : Shape.OneSymbol text said rest)
    (later : ∀ symbol : Symbol, symbol.plain = said →
      Reads (.afterSymbol (rule.add symbol)) rest statements) : Reads place text statements := by
  cases written with
  | nonterminal named =>
    have beginsName : BeginsName place (.rightName rule) := fun offset c starts =>
      begins offset c _ (Place.beginSymbol_eq_some_iff.mpr (Or.inr ⟨starts, rfl⟩))
    apply name collectsName_rightName beginsName named
    intro slice spelled
    exact later (.nonterminal slice) (congrArg PlainSymbol.nonterminal spelled)
  | @terminal content rest nonempty within =>
    have opens : ∀ offset, place.next offset '"' =
        some (.terminal rule (.startingAt (offset + Char.utf8Size '"'))) := fun offset =>
      begins offset '"' _ (Place.beginSymbol_eq_some_iff.mpr (Or.inl ⟨rfl, rfl⟩))
    apply insideAt opens (fun _ => rfl)
    intro offset
    apply collect collects_terminal within
    have spelled := Slice.extend_startingAt_text (offset + Char.utf8Size '"') content
    have filled : ((Slice.startingAt (offset + Char.utf8Size '"')).extend content).text ≠ "" := by
      rw [spelled]
      simpa using nonempty
    apply inside (fun _ => Place.next_terminal_eq_some_iff.mpr (Or.inl ⟨rfl, filled, rfl⟩)) rfl
    exact later (.terminal _) (congrArg PlainSymbol.terminal spelled)

/-! ## Right sides -/

theorem alternative {symbols : List PlainSymbol} (written : Shape.Alternative text symbols rest)
    (begins : BeginsSymbol place rule)
    (later : ∀ after : OpenRule,
      (∀ alternatives, after.ending [] alternatives = rule.ending symbols alternatives) →
        Reads (.afterSymbol after) rest statements) : Reads place text statements := by
  induction written generalizing place rule with
  | one only =>
    apply symbol begins only
    intro read plain
    apply later
    intro alternatives
    rw [OpenRule.ending_add, plain]
  | more first blank _ ih =>
    apply symbol begins first
    intro read plain
    apply blanks completed_afterSymbol.toPatient blank
    apply ih beginsSymbol_afterSymbol
    intro after others
    apply later
    intro alternatives
    rw [others, OpenRule.ending_add, plain]

theorem alternatives {said : List (List PlainSymbol)}
    (written : Shape.Alternatives text said rest) (begins : BeginsSymbol place rule)
    (fresh : rule.current = [])
    (later : ∀ after : OpenRule, after.statement.plain = rule.completedBy said →
      Reads (.afterSymbol after) rest statements) : Reads place text statements := by
  induction written generalizing place rule with
  | one only =>
    apply alternative only begins
    intro after ending
    apply later
    rw [OpenRule.plain_statement, ending, OpenRule.ending_of_current_eq_nil _ _ fresh]
  | more first blanksBefore blanksAfter _ ih =>
    apply alternative first begins
    intro after ending
    apply blanks completed_afterSymbol.toPatient blanksBefore
    have bar : ∀ offset,
        Place.next offset '|' (.afterSymbol after) = some (.alternative after.next) := fun _ =>
      Place.continueRule_eq_some_iff.mpr (Or.inr (Or.inl ⟨rfl, rfl⟩))
    apply inside bar rfl
    apply blanks patient_alternative blanksAfter
    apply ih beginsSymbol_alternative rfl
    intro last ended
    apply later
    rw [ended, OpenRule.completedBy_next, ending, OpenRule.ending_of_current_eq_nil _ _ fresh]

/-! ## Statements -/

theorem collectsName_leftName : CollectsName .leftName .afterLeftName where
  grows _ _ _ continues := Place.next_leftName_eq_some_iff.mpr (Or.inl ⟨continues, rfl⟩)
  inner _ := rfl
  same _ _ _ other := by simp [Place.next, other]
  statement_eq _ := rfl
  mayEnd_eq _ := rfl

theorem patient_afterLeftName {name : Slice} : Patient (.afterLeftName name) where
  blank _ _ blank := Place.afterName_eq_some_iff.mpr (Or.inl ⟨blank, rfl⟩)
  inner := rfl

theorem patient_colon : Patient .colon where
  blank _ _ blank := Place.next_colon_eq_some_iff.mpr (Or.inl ⟨blank, rfl⟩)
  inner := rfl

theorem beginsName_colon : BeginsName .colon .startName :=
  fun _ _ starts => Place.next_colon_eq_some_iff.mpr (Or.inr ⟨starts, rfl⟩)

theorem completed_afterStartName {name : Slice} : Completed (.afterStartName name) where
  lineEnd _ _ ends := Place.next_afterStartName_eq_some_iff.mpr
    (Or.inr (Place.separated_eq_some_iff.mpr (Or.inl ⟨Or.inl ends, rfl⟩)))
  comment _ := Place.next_afterStartName_eq_some_iff.mpr
    (Or.inr (Place.separated_eq_some_iff.mpr (Or.inr ⟨rfl, rfl⟩)))
  blank _ _ blank := Place.next_afterStartName_eq_some_iff.mpr (Or.inl ⟨blank, rfl⟩)
  inner := rfl
  semicolon _ := Place.next_afterStartName_eq_some_iff.mpr
    (Or.inr (Place.separated_eq_some_iff.mpr (Or.inl ⟨Or.inr rfl, rfl⟩)))
  mayEnd := rfl

theorem collectsName_startName : CollectsName .startName .afterStartName where
  grows _ _ _ continues := Place.next_startName_eq_some_iff.mpr (Or.inl ⟨continues, rfl⟩)
  inner _ := rfl
  same _ _ _ other := by simp [Place.next, other]
  statement_eq _ := rfl
  mayEnd_eq _ := rfl

/-- A text that begins with the keyword and something that does not continue it. -/
theorem name_of_keyword {afterKeyword afterColon : List Char}
    (blanks : Shape.Blanks afterKeyword (':' :: afterColon)) :
    Shape.Name (startKeyword.toList ++ afterKeyword) startKeyword afterKeyword := by
  have stops : ∀ c ∈ afterKeyword.head?, isIdentifierContinue c = false := by
    cases blanks with
    | none =>
      rintro _ ⟨⟩
      exact (of_mem_signs (by decide)).2
    | more blank _ =>
      rintro _ ⟨⟩
      exact (of_isInlineBlank blank).2.2.2
  have named := Shape.Name.mk isIdentifier_startKeyword stops
  rwa [String.ofList_toList] at named

theorem statement (begins : BeginsName place .leftName) {said : PlainStatement}
    (written : Shape.OneStatement text said rest)
    (later : ∀ after : Place, Completed after → after.pending = [said] →
      Reads after rest statements) : Reads place text statements := by
  cases written with
  | start blanksBefore blanksAfter named =>
    apply name collectsName_leftName begins (name_of_keyword blanksBefore)
    intro keyword spelled
    apply blanks patient_afterLeftName blanksBefore
    have colon : ∀ offset, Place.next offset ':' (.afterLeftName keyword) = some .colon := fun _ =>
      Place.afterName_eq_some_iff.mpr (Or.inr (Or.inr ⟨rfl, spelled, rfl⟩))
    apply inside colon rfl
    apply blanks patient_colon blanksAfter
    apply name collectsName_startName beginsName_colon named
    intro slice spelled
    apply later _ completed_afterStartName
    rw [← spelled]
    rfl
  | rule named blanksBefore blanksAfter right =>
    apply name collectsName_leftName begins named
    intro lhs spelled
    apply blanks patient_afterLeftName blanksBefore
    have dash : ∀ offset, Place.next offset '-' (.afterLeftName lhs) = some (.arrow lhs) := fun _ =>
      Place.afterName_eq_some_iff.mpr (Or.inr (Or.inl ⟨rfl, rfl⟩))
    have head : ∀ offset,
        Place.next offset '>' (.arrow lhs) = some (.alternative ⟨lhs, [], []⟩) := fun _ =>
      Place.next_arrow_eq_some_iff.mpr ⟨rfl, rfl⟩
    apply inside dash rfl
    apply inside head rfl
    apply blanks patient_alternative blanksAfter
    apply alternatives right beginsSymbol_alternative rfl
    intro after said
    apply later _ completed_afterSymbol
    rw [← spelled]
    exact congrArg (fun statement => [statement]) said

/-! ## Whole definitions -/

theorem beginsName_margin : BeginsName .margin .leftName := by
  intro _ _ starts
  rw [Place.next_margin_eq_some_iff, Place.opening_eq_some_iff]
  exact Or.inr (Or.inr (Or.inr (Or.inr ⟨starts, rfl⟩)))

theorem beginsName_indented : BeginsName .indented .leftName :=
  fun _ _ starts => Place.opening_eq_some_iff.mpr (Or.inr (Or.inr (Or.inr ⟨starts, rfl⟩)))

/-- A statement at the margin or after blanks there. -/
theorem statement_at_margin {afterBlanks : List Char} {said : PlainStatement}
    (blank : Shape.Blanks text afterBlanks) (written : Shape.OneStatement afterBlanks said rest)
    (later : ∀ after : Place, Completed after → after.pending = [said] →
      Reads after rest statements) : Reads .margin text statements := by
  apply blanks_at_margin blank
  · exact statement beginsName_margin written later
  · exact statement beginsName_indented written later

/-- What follows a complete statement completes the definition. -/
theorem following (written : Shape.Following longest text statements)
    (completed : Completed place) : Reads place text (place.pending ++ statements) := by
  induction written generalizing place with
  | closing ending =>
    rw [List.append_nil]
    exact closing completed ending
  | statement separator blanksBefore written blanksAfter _ ih =>
    apply Reads.separator completed separator
    apply statement_at_margin blanksBefore written
    intro after completed pending
    apply blanks completed.toPatient blanksAfter
    have read := ih completed
    rwa [pending] at read

theorem whole (written : Shape.Whole longest text statements) :
    Reads .margin text statements := by
  cases written with
  | empty separator ending => exact optionalSeparator_at_margin separator (closing_at_margin ending)
  | statements separator blanksBefore written blanksAfter others =>
    apply optionalSeparator_at_margin separator
    apply statement_at_margin blanksBefore written
    intro after completed pending
    apply blanks completed.toPatient blanksAfter
    have read := following others completed
    rwa [pending] at read

end Reads

end Cyk.Definition
