import Cyk.Proofs.Definition.Steps

/-!
# What a place asks for

What a text has to be like for a definition to be complete behind a place of the reader, said in
terms of the shape of definitions.
-/

namespace Cyk.Definition

open Text

namespace Shape

variable {longest : Bool} {text next rest : List Char} {statements : List PlainStatement}

theorem Blanks.trans (first : Blanks text next) (second : Blanks next rest) : Blanks text rest := by
  induction first with
  | none => exact second
  | more blank _ ih => exact .more blank (ih second)

theorem Separator.trans (first : Separator longest text next)
    (second : Separator longest next rest) : Separator longest text rest := by
  induction first with
  | one item => exact .more item second
  | more item _ ih => exact .more item (ih second)

theorem Separator.optional_trans (first : Separator longest text next)
    (second : OptionalSeparator longest next rest) : Separator longest text rest := by
  cases second with
  | none => exact first
  | some others => exact first.trans others

theorem Name.eq_append {name : String} (named : Name text name rest) :
    text = name.toList ++ rest := by
  cases named with
  | mk _ _ => rw [String.toList_ofList]

/-- A separator item in front of a definition. -/
theorem Whole.of_item (item : SeparatorItem longest text next)
    (written : Whole longest next statements) : Whole longest text statements := by
  have first := Separator.one item
  cases written with
  | empty separator ending => exact .empty (.some (first.optional_trans separator)) ending
  | statements separator blanksBefore written blanksAfter others =>
    exact .statements (.some (first.optional_trans separator)) blanksBefore written blanksAfter
      others

/-- A separator item, after which what would be a definition follows. -/
theorem Following.of_item (item : SeparatorItem longest text next)
    (written : Whole longest next statements) : Following longest text statements := by
  have first := Separator.one item
  cases written with
  | empty separator ending =>
    cases ending with
    | mk others blanks comment =>
      have separated := (first.optional_trans separator).optional_trans others
      exact .closing (.mk (.some separated) blanks comment)
  | statements separator blanksBefore written blanksAfter others =>
    exact .statement (first.optional_trans separator) blanksBefore written blanksAfter others

/-! ## What may stand behind a part -/

/-- After a complete statement, blanks and then the others. -/
inductive Follows (longest : Bool) : List Char → List PlainStatement → Prop where
  | mk {text rest : List Char} {statements : List PlainStatement} (blanks : Blanks text rest)
    (following : Following longest rest statements) : Follows longest text statements

/-- More symbols of an alternative, if there are any. -/
inductive SymbolTail : List Char → List PlainSymbol → List Char → Prop where
  | none {rest : List Char} : SymbolTail rest [] rest
  | some {text next rest : List Char} {symbols : List PlainSymbol} (blanks : Blanks text next)
    (others : Alternative next symbols rest) : SymbolTail text symbols rest

/-- More alternatives of a rule, if there are any. -/
inductive AlternativeTail : List Char → List (List PlainSymbol) → List Char → Prop where
  | none {rest : List Char} : AlternativeTail rest [] rest
  | some {text afterBar next rest : List Char} {alternatives : List (List PlainSymbol)}
    (blanksBefore : Blanks text ('|' :: afterBar)) (blanksAfter : Blanks afterBar next)
    (others : Alternatives next alternatives rest) : AlternativeTail text alternatives rest

theorem SymbolTail.alternative {symbol : PlainSymbol} {symbols : List PlainSymbol}
    (tail : SymbolTail next symbols rest) (first : OneSymbol text symbol next) :
    Alternative text (symbol :: symbols) rest := by
  cases tail with
  | none => exact .one first
  | some blanks others => exact .more first blanks others

theorem AlternativeTail.alternatives {symbols : List PlainSymbol}
    {alternatives : List (List PlainSymbol)} (tail : AlternativeTail next alternatives rest)
    (first : Alternative text symbols next) : Alternatives text (symbols :: alternatives) rest := by
  cases tail with
  | none => exact .one first
  | some blanksBefore blanksAfter others => exact .more first blanksBefore blanksAfter others

/-- After a symbol of a rule, the rest of the rule and the other statements. -/
inductive AfterSymbol (longest : Bool) (rule : OpenRule) :
    List Char → List PlainStatement → Prop where
  | mk {text afterSymbols afterRule : List Char} {symbols : List PlainSymbol}
    {alternatives : List (List PlainSymbol)} {statements : List PlainStatement}
    (symbolTail : SymbolTail text symbols afterSymbols)
    (alternativeTail : AlternativeTail afterSymbols alternatives afterRule)
    (follows : Follows longest afterRule statements) :
    AfterSymbol longest rule text (rule.ending symbols alternatives :: statements)

/-- Where an alternative begins, the rest of the rule and the other statements. -/
inductive AtAlternative (longest : Bool) (rule : OpenRule) :
    List Char → List PlainStatement → Prop where
  | mk {text next afterSymbols afterRule : List Char} {symbols : List PlainSymbol}
    {alternatives : List (List PlainSymbol)} {statements : List PlainStatement}
    (blanks : Blanks text next) (first : Alternative next symbols afterSymbols)
    (alternativeTail : AlternativeTail afterSymbols alternatives afterRule)
    (follows : Follows longest afterRule statements) :
    AtAlternative longest rule text (rule.ending symbols alternatives :: statements)

/-- After the first character of an arrow, its second one and a right side. -/
inductive AfterDash (longest : Bool) (lhs : String) :
    List Char → List PlainStatement → Prop where
  | mk {afterArrow next afterRule : List Char} {alternatives : List (List PlainSymbol)}
    {statements : List PlainStatement} (blanks : Blanks afterArrow next)
    (right : Alternatives next alternatives afterRule)
    (follows : Follows longest afterRule statements) :
    AfterDash longest lhs ('>' :: afterArrow) (.rule lhs alternatives :: statements)

/-- After the colon of a declaration, a name. -/
inductive AfterColon (longest : Bool) : List Char → List PlainStatement → Prop where
  | mk {text next afterSymbol : List Char} {symbol : String} {statements : List PlainStatement}
    (blanks : Blanks text next) (named : Name next symbol afterSymbol)
    (follows : Follows longest afterSymbol statements) :
    AfterColon longest text (.start symbol :: statements)

/-- After the name of a declaration, the other statements. -/
inductive AfterStartName (longest : Bool) (symbol : String) :
    List Char → List PlainStatement → Prop where
  | mk {text : List Char} {statements : List PlainStatement}
    (follows : Follows longest text statements) :
    AfterStartName longest symbol text (.start symbol :: statements)

/-- After the name that begins a statement, an arrow, or a colon if the name is the keyword. -/
inductive AfterLeftName (longest : Bool) (name : String) :
    List Char → List PlainStatement → Prop where
  | dash {text afterDash : List Char} {statements : List PlainStatement}
    (blanks : Blanks text ('-' :: afterDash)) (rule : AfterDash longest name afterDash statements) :
    AfterLeftName longest name text statements
  | colon {text afterColon : List Char} {statements : List PlainStatement}
    (keyword : name = startKeyword) (blanks : Blanks text (':' :: afterColon))
    (declaration : AfterColon longest afterColon statements) :
    AfterLeftName longest name text statements

/-- Inside a comment, the rest of it, and another line if there is one. -/
inductive InComment (longest : Bool) : List Char → List PlainStatement → Prop where
  | ends {text : List Char} (comment : Comment ('#' :: text) []) : InComment longest text []
  | line {text afterComment rest : List Char} {statements : List PlainStatement}
    (comment : Comment ('#' :: text) afterComment) (lineBreak : LineBreak longest afterComment rest)
    (others : Whole longest rest statements) : InComment longest text statements

/-- Inside a name, the letters that are left, and something that is said about the whole name and
the text behind it. -/
inductive InName (behind : Slice → List Char → Prop) (slice : Slice) : List Char → Prop where
  | mk {letters rest : List Char} (continues : ∀ c ∈ letters, isIdentifierContinue c = true)
    (stops : ∀ c ∈ rest.head?, isIdentifierContinue c = false)
    (holds : behind (slice.extend letters) rest) : InName behind slice (letters ++ rest)

/-- Between quotes, the characters that are left, and something that is said about all of them and
the text behind the quote. -/
inductive InTerminal (behind : Slice → List Char → Prop) (slice : Slice) : List Char → Prop where
  | mk {letters rest : List Char} (nonempty : (slice.extend letters).text ≠ "")
    (within : ∀ c ∈ letters, c ≠ '"' ∧ isReturn c = false)
    (holds : behind (slice.extend letters) rest) : InTerminal behind slice (letters ++ '"' :: rest)

end Shape

open Shape

/-- What a text has to be like for a definition to be complete behind a place, and the statements
that it adds.  A line feed at the margin may belong to a carriage return, hence the second half
there. -/
def Completes (longest : Bool) (text : List Char) (statements : List PlainStatement) :
    Place → Prop
  | .margin => Whole longest text statements ∧
      ∀ rest, text = '\n' :: rest → Whole longest rest statements
  | .indented => ∀ line, Blanks line text → Whole longest line statements
  | .comment => InComment longest text statements
  | .leftName name =>
    InName (fun name rest => AfterLeftName longest name.text rest statements) name text
  | .afterLeftName name => AfterLeftName longest name.text text statements
  | .arrow lhs => AfterDash longest lhs.text text statements
  | .alternative rule => AtAlternative longest rule text statements
  | .rightName rule name =>
    InName (fun name rest => AfterSymbol longest (rule.add (.nonterminal name)) rest statements)
      name text
  | .afterSymbol rule => AfterSymbol longest rule text statements
  | .terminal rule content =>
    InTerminal (fun content rest =>
      AfterSymbol longest (rule.add (.terminal content)) rest statements) content text
  | .colon => AfterColon longest text statements
  | .startName name =>
    InName (fun name rest => AfterStartName longest name.text rest statements) name text
  | .afterStartName name => AfterStartName longest name.text text statements

end Cyk.Definition
