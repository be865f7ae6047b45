import Cyk.Proofs.Definition.Reading

/-!
# Where a syntax error is

Every place can be completed, so a text that has been read so far can always be continued to a whole
definition.  A step that is not allowed cannot be mended by what comes later.  Hence the error that
reading gives points at the first character that no definition has there; and the furthest failure
of the parser, on whichever way it was met, is that error.
-/

namespace Cyk.Definition

open Text

/-- A text that completes a definition behind a place. -/
def Place.completion : Place → List Char
  | .margin | .indented | .comment => []
  | .leftName _ | .afterLeftName _ => ['-', '>', '_']
  | .arrow _ => ['>', '_']
  | .alternative _ | .colon => ['_']
  | .terminal _ _ => ['_', '"']
  | .rightName _ _ | .afterSymbol _ | .startName _ | .afterStartName _ => []

/-- Some statements are read of a text from a place on. -/
def Accepts (place : Place) (offset : Nat) (text : List Char) : Prop :=
  ∃ found, readFrom place offset text = .ok found

namespace Accepts

variable {place : Place} {offset : Nat} {c : Char} {rest : List Char}

theorem cons_iff :
    Accepts place offset (c :: rest) ↔
      ∃ following, place.next offset c = some following ∧
        Accepts following (offset + c.utf8Size) rest := by
  constructor
  · rintro ⟨found, run⟩
    rcases readFrom_cons_eq_ok_iff.mp run with ⟨following, allowed, later, run, _⟩
    exact ⟨following, allowed, later, run⟩
  · rintro ⟨following, allowed, later, run⟩
    exact ⟨_, readFrom_cons_eq_ok_iff.mpr ⟨following, allowed, later, run, rfl⟩⟩

theorem nil (ends : place.mayEnd = true) : Accepts place offset [] :=
  ⟨_, readFrom_nil_eq_ok_iff.mpr ⟨ends, rfl⟩⟩

theorem alternative {rule : OpenRule} : Accepts (.alternative rule) offset ['_'] := by
  have begun : Place.next offset '_' (.alternative rule) =
      some (.rightName rule ((Slice.startingAt offset).push '_')) :=
    Place.next_alternative_eq_some_iff.mpr
      (Or.inr (Place.beginSymbol_eq_some_iff.mpr (Or.inr ⟨rfl, rfl⟩)))
  exact cons_iff.mpr ⟨_, begun, nil rfl⟩

theorem arrow {lhs : Slice} : Accepts (.arrow lhs) offset ['>', '_'] :=
  cons_iff.mpr ⟨_, Place.next_arrow_eq_some_iff.mpr ⟨rfl, rfl⟩, alternative⟩

theorem quote {rule : OpenRule} {content : Slice} (nonempty : content.text ≠ "") :
    Accepts (.terminal rule content) offset ['"'] :=
  cons_iff.mpr
    ⟨_, Place.next_terminal_eq_some_iff.mpr (Or.inl ⟨rfl, nonempty, rfl⟩), nil rfl⟩

/-- What a place asks for can always be given. -/
theorem completion (place : Place) (offset : Nat) : Accepts place offset place.completion := by
  cases place with
  | margin | indented | comment | rightName | afterSymbol | startName | afterStartName =>
    exact nil rfl
  | leftName name =>
    have dash : isIdentifierContinue '-' = false := (of_mem_signs (by decide)).2
    have allowed : Place.afterName name '-' = some (.arrow name) :=
      Place.afterName_eq_some_iff.mpr (Or.inr (Or.inl ⟨rfl, rfl⟩))
    exact cons_iff.mpr ⟨_, Place.next_leftName_eq_some_iff.mpr (Or.inr ⟨dash, allowed⟩), arrow⟩
  | afterLeftName name =>
    exact cons_iff.mpr ⟨_, Place.afterName_eq_some_iff.mpr (Or.inr (Or.inl ⟨rfl, rfl⟩)), arrow⟩
  | arrow lhs => exact arrow
  | alternative rule => exact alternative
  | terminal rule content =>
    have letter : Place.next offset '_' (.terminal rule content) =
        some (.terminal rule (content.push '_')) :=
      Place.next_terminal_eq_some_iff.mpr (Or.inr ⟨by decide, rfl, rfl⟩)
    have nonempty : (content.push '_').text ≠ "" := String.push_ne_empty
    exact cons_iff.mpr ⟨_, letter, quote nonempty⟩
  | colon =>
    exact cons_iff.mpr ⟨_, Place.next_colon_eq_some_iff.mpr (Or.inr ⟨rfl, rfl⟩), nil rfl⟩

end Accepts

/-- The error is about the character behind `front`, or about the end of the text there. -/
structure PointsBehind (error : SyntaxError) (offset : Nat) (front back : List Char) : Prop where
  start_eq : error.span.start = offset + byteLength front
  stop_eq : error.span.stop = error.span.start + back.head?.elim 0 Char.utf8Size
  found_eq : error.found = back.head?

theorem PointsBehind.cons {error : SyntaxError} {offset : Nat} {front back : List Char} {c : Char}
    (points : PointsBehind error (offset + c.utf8Size) front back) :
    PointsBehind error offset (c :: front) back where
  start_eq := by rw [points.start_eq, byteLength_cons, Nat.add_assoc]
  stop_eq := points.stop_eq
  found_eq := points.found_eq

/-- The part in front can be continued, but not by the first character behind it. -/
structure Divides (place : Place) (offset : Nat) (front back : List Char) : Prop where
  viable : ∃ rest, Accepts place offset (front ++ rest)
  refused : ∀ c ∈ back.head?, ∀ rest, ¬ Accepts place offset (front ++ c :: rest)

namespace Divides

variable {place following : Place} {offset : Nat} {c : Char} {front back : List Char}

/-- A text whose first character may not come at all. -/
theorem here (impossible : ∀ c ∈ back.head?, place.next offset c = none) :
    Divides place offset [] back where
  viable := ⟨place.completion, Accepts.completion place offset⟩
  refused := by
    intro c first rest accepted
    rcases Accepts.cons_iff.mp accepted with ⟨following, allowed, _⟩
    rw [impossible c first] at allowed
    contradiction

/-- A step that is allowed leads to no other place, so it changes nothing. -/
theorem cons (allowed : place.next offset c = some following)
    (later : Divides following (offset + c.utf8Size) front back) :
    Divides place offset (c :: front) back where
  viable := by
    rcases later.viable with ⟨rest, accepted⟩
    exact ⟨rest, Accepts.cons_iff.mpr ⟨following, allowed, accepted⟩⟩
  refused := by
    intro d first rest accepted
    rcases Accepts.cons_iff.mp accepted with ⟨reached, step, accepted⟩
    rw [allowed] at step
    cases step
    exact later.refused d first rest accepted

end Divides

/-- Wherever reading begins, an error is about the first character that is impossible. -/
theorem readFrom_eq_error {place : Place} {offset : Nat} {text : List Char} {error : SyntaxError}
    (failed : readFrom place offset text = .error error) :
    ∃ front back, text = front ++ back ∧ PointsBehind error offset front back ∧
      Divides place offset front back := by
  induction text generalizing place offset with
  | nil =>
    rcases readFrom_nil_eq_error_iff.mp failed with ⟨_, rfl⟩
    have nothing : ∀ c ∈ ([] : List Char).head?, place.next offset c = none := by simp
    exact ⟨[], [], rfl, ⟨rfl, rfl, rfl⟩, .here nothing⟩
  | cons c text ih =>
    rcases readFrom_cons_eq_error_iff.mp failed with ⟨impossible, rfl⟩ | ⟨following, allowed, later⟩
    · have first : ∀ d ∈ (c :: text).head?, place.next offset d = none := by
        rintro _ ⟨⟩
        exact impossible
      exact ⟨[], c :: text, rfl, ⟨rfl, rfl, rfl⟩, .here first⟩
    · rcases ih later with ⟨front, back, rfl, points, divides⟩
      exact ⟨c :: front, back, rfl, points.cons, divides.cons allowed⟩

theorem utf8ByteSize_ofList (text : List Char) :
    (String.ofList text).utf8ByteSize = byteLength text := by
  induction text with
  | nil => rfl
  | cons c rest ih =>
    have split : String.ofList (c :: rest) = String.singleton c ++ String.ofList rest := by
      apply String.toList_inj.mp
      simp
    rw [split, String.utf8ByteSize_append, String.utf8ByteSize_singleton, ih, byteLength_cons]

theorem PointsBehind.stop_le {error : SyntaxError} {offset : Nat} {front back : List Char}
    (points : PointsBehind error offset front back) :
    error.span.stop ≤ offset + byteLength (front ++ back) := by
  have behind : back.head?.elim 0 Char.utf8Size ≤ byteLength back := by
    cases back with
    | nil => exact Nat.le_refl 0
    | cons c rest => exact Nat.le_add_right c.utf8Size (byteLength rest)
  rw [points.stop_eq, points.start_eq, byteLength_append, Nat.add_assoc]
  exact Nat.add_le_add_left (Nat.add_le_add_left behind _) offset

theorem exists_parse_iff {definition : String} :
    (∃ statements, Parser.rules.parse definition = ⟨some statements, []⟩) ↔
      Accepts .margin 0 definition.toList := by
  simp only [parse_eq_ok_iff, Accepts]

theorem output_eq_none_iff {definition : String} :
    (Parser.rules.parse definition).output = none ↔ ¬ Accepts .margin 0 definition.toList := by
  rw [← exists_parse_iff]
  rcases parse_ok_or_error definition with ⟨statements, parsed⟩ | ⟨error, failed⟩
  · simp [parsed]
  · simp [failed]

/-- **Syntax errors point at the first impossible character.**  A text that is not parsed to
statements has no output and exactly one error, which divides the text at a character.  The part in
front of it can be continued to a text that is parsed; the span is that of the character behind it,
if there is one, and no text that is parsed begins with both. -/
theorem error_at_first_impossible_character (definition : String)
    (rejected : ∀ statements, Parser.rules.parse definition ≠ ⟨some statements, []⟩) :
    ∃ error, Parser.rules.parse definition = ⟨none, [error]⟩ ∧
      ∃ front back : String, definition = front ++ back ∧
        error.span.start = front.utf8ByteSize ∧
        error.span.stop = error.span.start + back.toList.head?.elim 0 Char.utf8Size ∧
        error.span.stop ≤ definition.utf8ByteSize ∧
        error.found = back.toList.head? ∧
        (∃ rest statements, Parser.rules.parse (front ++ rest) = ⟨some statements, []⟩) ∧
        ∀ c ∈ back.toList.head?, ∀ rest,
          (Parser.rules.parse (front ++ String.singleton c ++ rest)).output = none := by
  rcases parse_ok_or_error definition with ⟨statements, parsed⟩ | ⟨error, failed⟩
  · exact absurd parsed (rejected statements)
  rcases readFrom_eq_error (parse_eq_error_iff.mp failed) with ⟨front, back, whole, points, divides⟩
  have parts : definition = String.ofList front ++ String.ofList back := by
    apply String.toList_inj.mp
    simpa using whole
  have start : error.span.start = (String.ofList front).utf8ByteSize := by
    rw [points.start_eq, utf8ByteSize_ofList, Nat.zero_add]
  have within : error.span.stop ≤ definition.utf8ByteSize := by
    rw [parts, ← String.ofList_append, utf8ByteSize_ofList, ← Nat.zero_add (byteLength _)]
    exact points.stop_le
  have viable : ∃ rest statements,
      Parser.rules.parse (String.ofList front ++ rest) = ⟨some statements, []⟩ := by
    rcases divides.viable with ⟨rest, accepted⟩
    refine ⟨String.ofList rest, exists_parse_iff.mpr ?_⟩
    simpa using accepted
  have refused : ∀ c ∈ back.head?, ∀ rest, (Parser.rules.parse
      (String.ofList front ++ String.singleton c ++ rest)).output = none := by
    intro c first rest
    apply output_eq_none_iff.mpr
    simpa using divides.refused c first rest.toList
  refine ⟨error, failed, String.ofList front, String.ofList back, parts, start, ?_⟩
  rw [String.toList_ofList]
  exact ⟨points.stop_eq, within, points.found_eq, viable, refused⟩

/-- A second arrow in one rule, behind a letter of two bytes. -/
theorem error_at_first_impossible_character_of_second_arrow :
    (∀ statements, Parser.rules.parse "meongé -> A -> B" ≠ ⟨some statements, []⟩) ∧
      ∃ error, Parser.rules.parse "meongé -> A -> B" = ⟨none, [error]⟩ ∧
        error.span = ⟨13, 14⟩ ∧ error.found = some '-' ∧
        ∃ front back : String, "meongé -> A -> B" = front ++ back ∧
          error.span.start = front.utf8ByteSize ∧
          (∃ rest statements, Parser.rules.parse (front ++ rest) = ⟨some statements, []⟩) ∧
          ∀ c ∈ back.toList.head?, ∀ rest,
            (Parser.rules.parse (front ++ String.singleton c ++ rest)).output = none := by
  have given : Parser.rules.parse "meongé -> A -> B" = ⟨none, [⟨some '-',
      Place.expected false (.afterSymbol ⟨.startingAt 0, [], []⟩), ⟨13, 14⟩⟩]⟩ :=
    parse_eq_error_iff.mpr rfl
  have rejected : ∀ statements,
      Parser.rules.parse "meongé -> A -> B" ≠ ⟨some statements, []⟩ := by
    intro statements
    simp [given]
  obtain ⟨error, failed, front, back, whole, start, _, _, _, viable, refused⟩ :=
    error_at_first_impossible_character "meongé -> A -> B" rejected
  obtain ⟨rfl⟩ : [error] = _ := congrArg ParseResult.errors (failed.symm.trans given)
  exact ⟨rejected, _, given, rfl, rfl, front, back, whole, start, viable, refused⟩

end Cyk.Definition
