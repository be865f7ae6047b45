import Cyk.Proofs.Definition.Reading
import Cyk.Proofs.Definition.Remainder

/-!
# The language of definitions

Every step of reading puts one character in front of what its place asks for, so whatever is read
has the shape of a definition; and whatever has the shape is read.  The parser agrees with reading,
so it never loses a definition by what it tries and gives up.
-/

namespace Cyk.Definition

open Text Shape

namespace Completes

variable {longest : Bool} {offset : Nat} {c : Char} {place following : Place} {rest : List Char}
  {statements : List PlainStatement}

/-! ## Names and terminals -/

/-- A name that is over. -/
theorem inName_here {behind : Slice → List Char → Prop} {name : Slice}
    (stops : ∀ c ∈ rest.head?, isIdentifierContinue c = false) (holds : behind name rest) :
    InName behind name rest :=
  .mk (List.forall_mem_nil _) stops holds

theorem inName_cons {behind : Slice → List Char → Prop} {name : Slice}
    (continues : isIdentifierContinue c = true) (later : InName behind (name.push c) rest) :
    InName behind name (c :: rest) := by
  cases later with
  | mk others stops holds => exact .mk (List.forall_mem_cons.mpr ⟨continues, others⟩) stops holds

/-- A name from its first letter on. -/
theorem name_of_inName {behind : Slice → List Char → Prop} (starts : isIdentifierStart c = true)
    (later : InName behind ((Slice.startingAt offset).push c) rest) :
    ∃ name next, Name (c :: rest) name.text next ∧ behind name next := by
  cases later with
  | @mk letters rest continues stops holds =>
    have identifier : isIdentifier (c :: letters) = true :=
      Bool.and_eq_true_iff.mpr ⟨starts, List.all_eq_true.mpr continues⟩
    have named := Name.mk identifier stops
    rw [← Slice.extend_startingAt_text offset (c :: letters)] at named
    exact ⟨_, _, named, holds⟩

/-- A terminal whose last quote comes next. -/
theorem inTerminal_here {behind : Slice → List Char → Prop} {content : Slice}
    (nonempty : content.text ≠ "") (holds : behind content rest) :
    InTerminal behind content ('"' :: rest) := by
  rw [← List.nil_append ('"' :: rest)]
  exact .mk nonempty (List.forall_mem_nil _) holds

theorem inTerminal_cons {behind : Slice → List Char → Prop} {content : Slice}
    (within : c ≠ '"' ∧ isReturn c = false) (later : InTerminal behind (content.push c) rest) :
    InTerminal behind content (c :: rest) := by
  cases later with
  | @mk letters _ nonempty others holds =>
    have all : ∀ d ∈ c :: letters, d ≠ '"' ∧ isReturn d = false :=
      List.forall_mem_cons.mpr ⟨within, others⟩
    rw [← List.cons_append]
    exact .mk nonempty all holds

/-- A terminal from its first quote on. -/
theorem terminal_of_inTerminal {behind : Slice → List Char → Prop}
    (later : InTerminal behind (.startingAt offset) rest) :
    ∃ content next, OneSymbol ('"' :: rest) (.terminal content.text) next ∧
      behind content next := by
  cases later with
  | @mk letters rest nonempty within holds =>
    have filled : letters ≠ [] := by
      rintro rfl
      exact nonempty rfl
    have quoted : OneSymbol ('"' :: (letters ++ '"' :: rest)) (.terminal _) rest :=
      .terminal filled within
    rw [← Slice.extend_startingAt_text offset letters] at quoted
    exact ⟨_, _, quoted, holds⟩

/-! ## Between statements -/

/-- A line end that leads to the margin, with the line feed that may belong to it. -/
theorem lineBreak (ends : isLineEnd c = true) (later : Completes longest rest statements .margin) :
    ∃ next, LineBreak longest (c :: rest) next ∧ Whole longest next statements := by
  by_cases paired : c = '\r' ∧ rest.head? = some '\n'
  · rcases paired with ⟨rfl, feed⟩
    rcases List.head?_eq_some_iff.mp feed with ⟨next, rfl⟩
    exact ⟨next, .pair, later.2 next rfl⟩
  · exact ⟨rest, .single ends (fun _ => paired), later.1⟩

/-- What separates two statements, after which the rest of a definition follows. -/
theorem separated (allowed : Place.separated c = some following)
    (later : Completes longest rest statements following) :
    Follows longest (c :: rest) statements := by
  rcases Place.separated_eq_some_iff.mp allowed with ⟨ends | rfl, rfl⟩ | ⟨rfl, rfl⟩
  · rcases lineBreak ends later with ⟨next, lineBreak, written⟩
    exact .mk .none (.of_item (.line .none .none lineBreak) written)
  · exact .mk .none (.of_item .semicolon later.1)
  · cases later with
    | ends comment => exact .mk .none (.closing (.mk .none .none (.some comment)))
    | line comment lineBreak written =>
      exact .mk .none (.of_item (.line .none (.some comment) lineBreak) written)

theorem follows_nil : Follows longest [] [] :=
  .mk .none (.closing (.mk .none .none .none))

theorem follows_blank {text : List Char} (blank : isInlineBlank c = true)
    (later : Follows longest text statements) : Follows longest (c :: text) statements := by
  cases later with
  | mk blanks following => exact .mk (.more blank blanks) following

/-- The comment may be over at a return, or go on. -/
theorem inComment (allowed : Place.next offset c .comment = some following)
    (later : Completes longest rest statements following) :
    InComment longest (c :: rest) statements := by
  rcases Place.next_comment_eq_some_iff.mp allowed with ⟨ends, rfl⟩ | ⟨within, rfl⟩
  · rcases lineBreak (isLineEnd_of_isReturn ends) later with ⟨next, lineBreak, written⟩
    have stops : ∀ d ∈ (c :: rest).head?, isReturn d = true := by
      rintro _ ⟨⟩
      exact ends
    exact .line (Comment.mk (List.forall_mem_nil _) stops) lineBreak written
  · have longer : ∀ {next}, Comment ('#' :: rest) next → Comment ('#' :: c :: rest) next := by
      intro next comment
      cases comment with
      | mk others stops => exact Comment.mk (List.forall_mem_cons.mpr ⟨within, others⟩) stops
    cases later with
    | ends comment => exact .ends (longer comment)
    | line comment lineBreak written => exact .line (longer comment) lineBreak written

/-! ## Right sides -/

variable {rule : OpenRule}

/-- A symbol from its first character on. -/
theorem symbol (begun : Place.beginSymbol rule offset c = some following)
    (later : Completes longest rest statements following) :
    ∃ (symbol : Symbol) (next : List Char), OneSymbol (c :: rest) symbol.plain next ∧
      AfterSymbol longest (rule.add symbol) next statements := by
  rcases Place.beginSymbol_eq_some_iff.mp begun with ⟨rfl, rfl⟩ | ⟨starts, rfl⟩
  · rcases terminal_of_inTerminal later with ⟨content, next, written, after⟩
    exact ⟨.terminal content, next, written, after⟩
  · rcases name_of_inName starts later with ⟨name, next, written, after⟩
    exact ⟨.nonterminal name, next, .nonterminal written, after⟩

theorem not_isBetween_of_beginSymbol (begun : Place.beginSymbol rule offset c = some following) :
    following.isBetween = false := by
  rcases Place.beginSymbol_eq_some_iff.mp begun with ⟨rfl, rfl⟩ | ⟨starts, rfl⟩
  · rfl
  · rfl

theorem isBetween_of_separated (allowed : Place.separated c = some following) :
    following.isBetween = true := by
  rcases Place.separated_eq_some_iff.mp allowed with ⟨_, rfl⟩ | ⟨_, rfl⟩
  · rfl
  · rfl

theorem pending_afterSymbol : Place.pending (.afterSymbol rule) = [rule.ending [] []] :=
  congrArg (fun statement => [statement]) rule.plain_statement

/-- The statement that is complete before a step, if the step ends it. -/
def ended (place following : Place) : List PlainStatement :=
  if following.isBetween then place.pending else []

theorem map_plain_finished (place following : Place) :
    (if following.isBetween then place.statement?.toList else []).map Statement.plain =
      ended place following := by
  unfold ended
  cases following.isBetween with
  | true => rfl
  | false => rfl

theorem afterSymbol_blank (blank : isInlineBlank c = true)
    (later : AfterSymbol longest rule rest statements) :
    AfterSymbol longest rule (c :: rest) statements := by
  cases later with
  | mk symbolTail alternativeTail follows =>
    cases symbolTail with
    | none =>
      cases alternativeTail with
      | none => exact .mk .none .none (follows_blank blank follows)
      | some blanksBefore blanksAfter others =>
        exact .mk .none (.some (.more blank blanksBefore) blanksAfter others) follows
    | some blanks others => exact .mk (.some (.more blank blanks) others) alternativeTail follows

/-- After a symbol: blanks, a bar, another symbol, or the end of the rule. -/
theorem afterSymbol (allowed : Place.continueRule rule offset c = some following)
    (later : Completes longest rest statements following) :
    AfterSymbol longest rule (c :: rest) (ended (.afterSymbol rule) following ++ statements) := by
  rcases Place.continueRule_eq_some_iff.mp allowed with
    ⟨blank, rfl⟩ | ⟨rfl, rfl⟩ | begun | separator
  · exact afterSymbol_blank blank later
  · cases later with
    | mk blanks first alternativeTail follows =>
      rw [OpenRule.ending_next]
      exact .mk .none (.some .none blanks (alternativeTail.alternatives first)) follows
  · rcases symbol begun later with ⟨read, next, written, after⟩
    rw [ended, not_isBetween_of_beginSymbol begun]
    cases after with
    | mk symbolTail alternativeTail follows =>
      rw [OpenRule.ending_add]
      exact .mk (.some .none (symbolTail.alternative written)) alternativeTail follows
  · rw [ended, isBetween_of_separated separator, if_pos rfl, pending_afterSymbol]
    exact .mk .none .none (separated separator later)

theorem alternative (allowed : Place.next offset c (.alternative rule) = some following)
    (later : Completes longest rest statements following) :
    AtAlternative longest rule (c :: rest) statements := by
  rcases Place.next_alternative_eq_some_iff.mp allowed with ⟨blank, rfl⟩ | begun
  · cases later with
    | mk blanks first alternativeTail follows =>
      exact .mk (.more blank blanks) first alternativeTail follows
  · rcases symbol begun later with ⟨read, next, written, after⟩
    cases after with
    | mk symbolTail alternativeTail follows =>
      rw [OpenRule.ending_add]
      exact .mk .none (symbolTail.alternative written) alternativeTail follows

/-! ## Left sides and declarations -/

theorem afterStartName {name : Slice}
    (allowed : Place.next offset c (.afterStartName name) = some following)
    (later : Completes longest rest statements following) :
    AfterStartName longest name.text (c :: rest)
      (ended (.afterStartName name) following ++ statements) := by
  rcases Place.next_afterStartName_eq_some_iff.mp allowed with ⟨blank, rfl⟩ | separator
  · cases later with
    | mk follows => exact .mk (follows_blank blank follows)
  · rw [ended, isBetween_of_separated separator]
    exact .mk (separated separator later)

theorem colon (allowed : Place.next offset c .colon = some following)
    (later : Completes longest rest statements following) :
    AfterColon longest (c :: rest) statements := by
  rcases Place.next_colon_eq_some_iff.mp allowed with ⟨blank, rfl⟩ | ⟨starts, rfl⟩
  · cases later with
    | mk blanks named follows => exact .mk (.more blank blanks) named follows
  · rcases name_of_inName starts later with ⟨name, next, named, after⟩
    cases after with
    | mk follows => exact .mk .none named follows

theorem arrow {lhs : Slice} (allowed : Place.next offset c (.arrow lhs) = some following)
    (later : Completes longest rest statements following) :
    AfterDash longest lhs.text (c :: rest) statements := by
  rcases Place.next_arrow_eq_some_iff.mp allowed with ⟨rfl, rfl⟩
  cases later with
  | mk blanks first alternativeTail follows =>
    exact .mk blanks (alternativeTail.alternatives first) follows

theorem afterLeftName {name : Slice} (allowed : Place.afterName name c = some following)
    (later : Completes longest rest statements following) :
    AfterLeftName longest name.text (c :: rest) statements := by
  rcases Place.afterName_eq_some_iff.mp allowed with
    ⟨blank, rfl⟩ | ⟨rfl, rfl⟩ | ⟨rfl, keyword, rfl⟩
  · cases later with
    | dash blanks rule => exact .dash (.more blank blanks) rule
    | colon keyword blanks declaration => exact .colon keyword (.more blank blanks) declaration
  · exact .dash .none later
  · exact .colon keyword .none later

/-- A statement from its first letter on. -/
theorem statement (starts : isIdentifierStart c = true)
    (later : Completes longest rest statements (.leftName ((Slice.startingAt offset).push c))) :
    ∃ first others next, statements = first :: others ∧ OneStatement (c :: rest) first next ∧
      Follows longest next others := by
  rcases name_of_inName starts later with ⟨name, next, named, after⟩
  cases after with
  | dash blanks rule =>
    cases rule with
    | mk blanksAfter right follows =>
      exact ⟨_, _, _, rfl, .rule named blanks blanksAfter right, follows⟩
  | colon keyword blanks declaration =>
    cases declaration with
    | mk blanksAfter declared follows =>
      have written := OneStatement.start blanks blanksAfter declared
      rw [← keyword, ← named.eq_append] at written
      exact ⟨_, _, _, rfl, written, follows⟩

/-! ## All places -/

/-- A step before a statement, after blanks that have been read. -/
theorem opening {line : List Char} (blanks : Blanks line (c :: rest))
    (allowed : Place.opening offset c = some following)
    (later : Completes longest rest statements following) : Whole longest line statements := by
  rcases Place.opening_eq_some_iff.mp allowed with
    ⟨blank, rfl⟩ | ⟨ends, rfl⟩ | ⟨rfl, rfl⟩ | ⟨starts, rfl⟩
  · exact later line (blanks.trans (.more blank .none))
  · rcases lineBreak ends later with ⟨next, lineBreak, written⟩
    exact .of_item (.line blanks .none lineBreak) written
  · cases later with
    | ends comment => exact .empty .none (.mk .none blanks (.some comment))
    | line comment lineBreak written =>
      exact .of_item (.line blanks (.some comment) lineBreak) written
  · rcases statement starts later with ⟨first, others, next, rfl, written, after⟩
    cases after with
    | mk blanksAfter following => exact .statements .none blanks written blanksAfter following

theorem margin (allowed : Place.next offset c .margin = some following)
    (later : Completes longest rest statements following) :
    Completes longest (c :: rest) statements .margin := by
  constructor
  · rcases Place.next_margin_eq_some_iff.mp allowed with ⟨rfl, rfl⟩ | opened
    · exact .of_item .semicolon later.1
    · exact opening .none opened later
  · -- A line feed leads back to the margin, so what follows it is a definition as well.
    rintro _ ⟨⟩
    obtain rfl : following = .margin := by
      rcases Place.next_margin_eq_some_iff.mp allowed with ⟨_, rfl⟩ | opened
      · rfl
      · exact (Option.some_inj.mp opened).symm
    exact later.1

/-- One step of the reader puts a character in front of what completes the definition. -/
theorem step (allowed : place.next offset c = some following)
    (later : Completes longest rest statements following) :
    Completes longest (c :: rest) (ended place following ++ statements) place := by
  have nothing : place.statement? = none → ended place following ++ statements = statements := by
    intro incomplete
    simp [ended, Place.pending, incomplete]
  have stops : isIdentifierContinue c = false →
      ∀ d ∈ (c :: rest).head?, isIdentifierContinue d = false := by
    rintro other _ ⟨⟩
    exact other
  cases place with
  | margin =>
    rw [nothing rfl]
    exact margin allowed later
  | indented =>
    rw [nothing rfl]
    exact fun line blanks => opening blanks allowed later
  | comment =>
    rw [nothing rfl]
    exact inComment allowed later
  | leftName name =>
    rw [nothing rfl]
    rcases Place.next_leftName_eq_some_iff.mp allowed with ⟨continues, rfl⟩ | ⟨other, allowed⟩
    · exact inName_cons continues later
    · exact inName_here (stops other) (afterLeftName allowed later)
  | afterLeftName name =>
    rw [nothing rfl]
    exact afterLeftName allowed later
  | arrow lhs =>
    rw [nothing rfl]
    exact arrow allowed later
  | alternative rule =>
    rw [nothing rfl]
    exact alternative allowed later
  | rightName rule name =>
    rcases Place.next_rightName_eq_some_iff.mp allowed with ⟨continues, rfl⟩ | ⟨other, allowed⟩
    · exact inName_cons continues later
    · exact inName_here (stops other) (afterSymbol allowed later)
  | afterSymbol rule => exact afterSymbol allowed later
  | terminal rule content =>
    rw [nothing rfl]
    rcases Place.next_terminal_eq_some_iff.mp allowed with
      ⟨rfl, nonempty, rfl⟩ | ⟨unquoted, within, rfl⟩
    · exact inTerminal_here nonempty later
    · exact inTerminal_cons ⟨unquoted, within⟩ later
  | colon =>
    rw [nothing rfl]
    exact colon allowed later
  | startName name =>
    rcases Place.next_startName_eq_some_iff.mp allowed with ⟨continues, rfl⟩ | ⟨other, allowed⟩
    · exact inName_cons continues later
    · exact inName_here (stops other) (afterStartName allowed later)
  | afterStartName name => exact afterStartName allowed later

/-- Where a definition may end, nothing more is needed. -/
theorem nil (ends : place.mayEnd = true) : Completes longest [] place.pending place := by
  have stops : ∀ c ∈ ([] : List Char).head?, isIdentifierContinue c = false := by simp
  have complete : ∀ rule : OpenRule,
      AfterSymbol longest rule [] (Place.pending (.afterSymbol rule)) := by
    intro rule
    rw [pending_afterSymbol]
    exact .mk .none .none follows_nil
  cases place with
  | margin => exact ⟨.empty .none (.mk .none .none .none), by simp⟩
  | indented => exact fun line blanks => .empty .none (.mk .none blanks .none)
  | comment => exact .ends (Comment.mk (List.forall_mem_nil _) (by simp))
  | rightName rule name => exact inName_here stops (complete _)
  | afterSymbol rule => exact complete rule
  | startName name => exact inName_here stops (.mk follows_nil)
  | afterStartName name => exact .mk follows_nil
  | leftName | afterLeftName | arrow | alternative | terminal | colon =>
    exact absurd ends Bool.false_ne_true

/-- Whatever is read from a place on completes the definition there. -/
theorem of_readFrom {text : List Char} {found : List Statement}
    (run : readFrom place offset text = .ok found) :
    Completes longest text (found.map Statement.plain) place := by
  induction text generalizing place offset found with
  | nil =>
    rcases readFrom_nil_eq_ok_iff.mp run with ⟨ends, rfl⟩
    exact nil ends
  | cons c rest ih =>
    rcases readFrom_cons_eq_ok_iff.mp run with ⟨following, allowed, others, later, rfl⟩
    rw [List.map_append, map_plain_finished]
    exact step allowed (ih later)

end Completes

/-- **The language of definitions.**  A text is parsed to some statements without an error exactly
if it has the shape of a definition that says them; and there is no output and exactly one error
exactly if it has no such shape.  It makes no difference whether a carriage return and a line feed
must count as one line break. -/
theorem parse_decides_shape (longest : Bool) (definition : String) :
    (∀ said, (∃ statements, Parser.rules.parse definition = ⟨some statements, []⟩ ∧
        statements.map Statement.plain = said) ↔ Whole longest definition.toList said) ∧
      ((∃ error, Parser.rules.parse definition = ⟨none, [error]⟩) ↔
        ∀ said, ¬ Whole longest definition.toList said) := by
  have parses : ∀ said, (∃ statements, Parser.rules.parse definition = ⟨some statements, []⟩ ∧
      statements.map Statement.plain = said) ↔ Whole longest definition.toList said := by
    intro said
    constructor
    · rintro ⟨statements, parsed, rfl⟩
      exact (Completes.of_readFrom (parse_eq_ok_iff.mp parsed)).1
    · intro written
      rcases Reads.whole written 0 with ⟨statements, run, agrees⟩
      exact ⟨statements, parse_eq_ok_iff.mpr run, agrees⟩
  constructor
  · exact parses
  · constructor
    · rintro ⟨error, failed⟩ said written
      rcases (parses said).mpr written with ⟨statements, parsed, _⟩
      rw [failed] at parsed
      exact absurd parsed (by simp)
    · intro shapeless
      rcases parse_ok_or_error definition with ⟨statements, parsed⟩ | failed
      · exact absurd ((parses _).mp ⟨statements, parsed, rfl⟩) (shapeless _)
      · exact failed

end Cyk.Definition
