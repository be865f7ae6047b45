import Cyk.Proofs.Definition.Shape
import Cyk.Proofs.Definition.Steps

/-!
# Reading what separates statements

Each part of the shape of a definition takes the reader from one place to another.  A text is
followed from its end to its beginning: if the rest is read from the place behind a part, then the
whole is read from the place before it.  Blanks, comments and separators come first.
-/

namespace Cyk.Definition

open Text

/-- The statement that is complete at a place. -/
def Place.pending (place : Place) : List PlainStatement :=
  place.statement?.toList.map Statement.plain

/-- Wherever in a definition a place is, a text behind it is read to the end and says some
statements. -/
def Reads (place : Place) (text : List Char) (statements : List PlainStatement) : Prop :=
  ∀ offset, ∃ found, readFrom place offset text = .ok found ∧
    found.map Statement.plain = statements

/-- A line end and the beginning of a comment are understood at a place. -/
structure Separates (place : Place) : Prop where
  lineEnd : ∀ offset c, isLineEnd c = true → place.next offset c = some .margin
  comment : ∀ offset, place.next offset '#' = some .comment

/-- Blanks do not matter at a place. -/
structure Patient (place : Place) : Prop where
  blank : ∀ offset c, isInlineBlank c = true → place.next offset c = some place
  inner : place.isBetween = false

/-- A statement is complete at a place, and blanks or separators may follow. -/
structure Completed (place : Place) : Prop extends Separates place, Patient place where
  semicolon : ∀ offset, place.next offset ';' = some .margin
  mayEnd : place.mayEnd = true

namespace Reads

variable {place : Place} {text rest : List Char} {statements : List PlainStatement}

/-! ## Single characters -/

theorem nil (ends : place.mayEnd = true) : Reads place [] place.pending :=
  fun _ => ⟨place.statement?.toList, readFrom_nil_eq_ok_iff.mpr ⟨ends, rfl⟩, rfl⟩

/-- A step that completes no statement, to a place that may remember where it was made. -/
theorem insideAt {c : Char} {followingAt : Nat → Place}
    (allowed : ∀ offset, place.next offset c = some (followingAt offset))
    (inner : ∀ offset, (followingAt offset).isBetween = false)
    (later : ∀ offset, Reads (followingAt offset) rest statements) :
    Reads place (c :: rest) statements := by
  intro offset
  rcases later offset (offset + c.utf8Size) with ⟨found, run, agrees⟩
  have nothing : (if (followingAt offset).isBetween then place.statement?.toList else []) = [] := by
    rw [inner offset]
    rfl
  exact ⟨found, readFrom_cons_eq_ok_iff.mpr
    ⟨followingAt offset, allowed offset, found, run, by rw [nothing, List.nil_append]⟩, agrees⟩

/-- A step that completes no statement. -/
theorem inside {c : Char} {following : Place}
    (allowed : ∀ offset, place.next offset c = some following)
    (inner : following.isBetween = false) (later : Reads following rest statements) :
    Reads place (c :: rest) statements :=
  insideAt allowed (fun _ => inner) (fun _ => later)

/-- A step out of a statement, which completes it. -/
theorem between {c : Char} {following : Place}
    (allowed : ∀ offset, place.next offset c = some following)
    (outer : following.isBetween = true) (later : Reads following rest statements) :
    Reads place (c :: rest) (place.pending ++ statements) := by
  intro offset
  rcases later (offset + c.utf8Size) with ⟨found, run, agrees⟩
  apply Exists.intro (place.statement?.toList ++ found)
  constructor
  · exact readFrom_cons_eq_ok_iff.mpr
      ⟨following, allowed offset, found, run, by rw [if_pos outer]⟩
  · rw [List.map_append, agrees]
    rfl

/-! ## Blanks, line breaks and comments -/

theorem blanks (patient : Patient place) (written : Shape.Blanks text rest)
    (later : Reads place rest statements) : Reads place text statements := by
  induction written with
  | none => exact later
  | more blank _ ih =>
    exact inside (fun offset => patient.blank offset _ blank) patient.inner (ih later)

theorem separates_margin : Separates .margin where
  lineEnd _ _ ends := by
    rw [Place.next_margin_eq_some_iff, Place.opening_eq_some_iff]
    exact Or.inr (Or.inr (Or.inl ⟨ends, rfl⟩))
  comment _ := by
    rw [Place.next_margin_eq_some_iff, Place.opening_eq_some_iff]
    exact Or.inr (Or.inr (Or.inr (Or.inl ⟨rfl, rfl⟩)))

theorem separates_indented : Separates .indented where
  lineEnd _ _ ends := Place.opening_eq_some_iff.mpr (Or.inr (Or.inl ⟨ends, rfl⟩))
  comment _ := Place.opening_eq_some_iff.mpr (Or.inr (Or.inr (Or.inl ⟨rfl, rfl⟩)))

theorem patient_indented : Patient .indented where
  blank _ _ blank := Place.opening_eq_some_iff.mpr (Or.inl ⟨blank, rfl⟩)
  inner := rfl

/-- Blanks at the margin lead away from it, so both places must be looked at. -/
theorem blanks_at_margin (written : Shape.Blanks text rest)
    (atMargin : Reads .margin rest statements) (indented : Reads .indented rest statements) :
    Reads .margin text statements := by
  cases written with
  | none => exact atMargin
  | more blank others =>
    have leaves : ∀ offset, Place.next offset _ .margin = some .indented := fun _ =>
      Place.next_margin_eq_some_iff.mpr
        (Or.inr (Place.opening_eq_some_iff.mpr (Or.inl ⟨blank, rfl⟩)))
    exact inside leaves rfl (blanks patient_indented others indented)

variable {longest : Bool}

theorem lineBreak (separates : Separates place) (written : Shape.LineBreak longest text rest)
    (later : Reads .margin rest statements) : Reads place text (place.pending ++ statements) := by
  cases written with
  | pair =>
    apply between (fun offset => separates.lineEnd offset '\r' rfl) rfl
    exact between (fun offset => separates_margin.lineEnd offset '\n' rfl) rfl later
  | single ends _ => exact between (fun offset => separates.lineEnd offset _ ends) rfl later

theorem within_comment {body : List Char} (within : ∀ c ∈ body, isReturn c = false)
    (later : Reads .comment rest statements) : Reads .comment (body ++ rest) statements := by
  induction body with
  | nil => exact later
  | cons c body ih =>
    rcases List.forall_mem_cons.mp within with ⟨here, others⟩
    have stays : ∀ offset, Place.next offset c .comment = some .comment := fun offset =>
      Place.next_comment_eq_some_iff.mpr (Or.inr ⟨here, rfl⟩)
    exact between stays rfl (ih others)

theorem comment (separates : Separates place) (written : Shape.Comment text rest)
    (later : Reads .comment rest statements) : Reads place text (place.pending ++ statements) := by
  cases written with
  | mk within _ => exact between separates.comment rfl (within_comment within later)

/-- A line break behind a comment begins with one of the characters that end the comment. -/
theorem lineBreak_of_comment {afterComment : List Char}
    (stops : ∀ c ∈ afterComment.head?, isReturn c = true)
    (written : Shape.LineBreak longest afterComment rest)
    (later : Reads .margin rest statements) : Reads .comment afterComment statements := by
  have leaves : ∀ c, isReturn c = true → ∀ offset,
      Place.next offset c .comment = some .margin := fun c ends offset =>
    Place.next_comment_eq_some_iff.mpr (Or.inl ⟨ends, rfl⟩)
  cases written with
  | pair =>
    apply between (leaves '\r' rfl) rfl
    exact between (fun offset => separates_margin.lineEnd offset '\n' rfl) rfl later
  | single _ _ => exact between (leaves _ (stops _ rfl)) rfl later

theorem line (separates : Separates place) {afterComment : List Char}
    (optional : Shape.OptionalComment text afterComment)
    (written : Shape.LineBreak longest afterComment rest)
    (later : Reads .margin rest statements) : Reads place text (place.pending ++ statements) := by
  cases optional with
  | none => exact lineBreak separates written later
  | some commented =>
    apply comment separates commented
    cases commented with
    | mk _ stops => exact lineBreak_of_comment stops written later

/-! ## Separators -/

theorem separatorItem_at_margin (written : Shape.SeparatorItem longest text rest)
    (later : Reads .margin rest statements) : Reads .margin text statements := by
  cases written with
  | semicolon =>
    have stays : ∀ offset, Place.next offset ';' .margin = some .margin := fun offset =>
      Place.next_margin_eq_some_iff.mpr (Or.inl ⟨rfl, rfl⟩)
    exact between stays rfl later
  | line blank comment lineBreak =>
    apply blanks_at_margin blank
    · exact line separates_margin comment lineBreak later
    · exact line separates_indented comment lineBreak later

theorem separator_at_margin (written : Shape.Separator longest text rest)
    (later : Reads .margin rest statements) : Reads .margin text statements := by
  induction written with
  | one item => exact separatorItem_at_margin item later
  | more item _ ih => exact separatorItem_at_margin item (ih later)

theorem optionalSeparator_at_margin (written : Shape.OptionalSeparator longest text rest)
    (later : Reads .margin rest statements) : Reads .margin text statements := by
  cases written with
  | none => exact later
  | some separator => exact separator_at_margin separator later

theorem separatorItem (completed : Completed place)
    (written : Shape.SeparatorItem longest text rest) (later : Reads .margin rest statements) :
    Reads place text (place.pending ++ statements) := by
  cases written with
  | semicolon => exact between completed.semicolon rfl later
  | line blank comment lineBreak =>
    exact blanks completed.toPatient blank (line completed.toSeparates comment lineBreak later)

theorem separator (completed : Completed place) (written : Shape.Separator longest text rest)
    (later : Reads .margin rest statements) : Reads place text (place.pending ++ statements) := by
  cases written with
  | one item => exact separatorItem completed item later
  | more item others => exact separatorItem completed item (separator_at_margin others later)

/-! ## The end -/

theorem ending (separates : Separates place) (ends : place.mayEnd = true)
    (written : Shape.OptionalComment text []) : Reads place text place.pending := by
  cases written with
  | none => exact nil ends
  | some commented =>
    have atEnd : Reads .comment [] [] := nil rfl
    have read := comment separates commented atEnd
    rwa [List.append_nil] at read

theorem closing_at_margin (written : Shape.Closing longest text) : Reads .margin text [] := by
  cases written with
  | mk separator blank comment =>
    apply optionalSeparator_at_margin separator
    apply blanks_at_margin blank
    · exact ending separates_margin rfl comment
    · exact ending separates_indented rfl comment

theorem closing (completed : Completed place) (written : Shape.Closing longest text) :
    Reads place text place.pending := by
  cases written with
  | mk separator blank comment =>
    cases separator with
    | none =>
      exact blanks completed.toPatient blank (ending completed.toSeparates completed.mayEnd comment)
    | some separator =>
      have closed : Shape.Closing longest _ := .mk .none blank comment
      have read := Reads.separator completed separator (closing_at_margin closed)
      rwa [List.append_nil] at read

end Reads

end Cyk.Definition
