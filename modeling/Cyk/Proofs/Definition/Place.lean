import Cyk.Definition.Reader

/-!
# The places of a definition

A definition can be read character by character, without ever going back.  At every place it is
known what may come next, so the first character that may not is the error, and every text read so
far can still be completed.
-/

namespace Cyk.Definition

open Text

/-- A rule whose right side is being read: the alternatives that are complete, and the symbols so
far of the one that is not. -/
structure OpenRule where
  lhs : Slice
  complete : List (List Symbol)
  current : List Symbol
deriving DecidableEq, Repr

namespace OpenRule

/-- The rule with one more symbol. -/
def add (rule : OpenRule) (symbol : Symbol) : OpenRule :=
  { rule with current := rule.current ++ [symbol] }

/-- The rule at the beginning of its next alternative. -/
def next (rule : OpenRule) : OpenRule :=
  { rule with complete := rule.complete ++ [rule.current], current := [] }

/-- The rule as a statement, should it end here. -/
def statement (rule : OpenRule) : Statement :=
  .rule rule.lhs (rule.complete ++ [rule.current])

end OpenRule

/-- Where in a statement the reader is. -/
inductive Place where
  /-- At the beginning of the text, or right after a separator. -/
  | margin
  /-- The same, after blanks. -/
  | indented
  | comment
  /-- In the name that begins a statement. -/
  | leftName (name : Slice)
  | afterLeftName (name : Slice)
  /-- After the first character of an arrow. -/
  | arrow (lhs : Slice)
  /-- After an arrow or a bar. -/
  | alternative (rule : OpenRule)
  /-- In a name on a right side. -/
  | rightName (rule : OpenRule) (name : Slice)
  /-- After a symbol of a right side. -/
  | afterSymbol (rule : OpenRule)
  /-- Between quotes. -/
  | terminal (rule : OpenRule) (content : Slice)
  /-- After the colon of a declaration. -/
  | colon
  /-- In the name that a declaration gives. -/
  | startName (name : Slice)
  | afterStartName (name : Slice)
deriving DecidableEq, Repr

namespace Place

/-- The statement that would be complete if it ended here. -/
def statement? : Place → Option Statement
  | .rightName rule name => some (rule.add (.nonterminal name)).statement
  | .afterSymbol rule => some rule.statement
  | .startName name | .afterStartName name => some (.start name)
  | _ => none

/-- Whether the text may end here. -/
def mayEnd : Place → Bool
  | .margin | .indented | .comment => true
  | place => place.statement?.isSome

/-- After a complete statement, what ends it. -/
def separated (c : Char) : Option Place :=
  if isLineEnd c || c == ';' then some .margin
  else if c == '#' then some .comment
  else none

/-- Before a statement, blanks and comments, empty lines, and the name that begins it. -/
def opening (offset : Nat) (c : Char) : Option Place :=
  if isInlineBlank c then some .indented
  else if isLineEnd c then some .margin
  else if c == '#' then some .comment
  else if isIdentifierStart c then some (.leftName ((Slice.startingAt offset).push c))
  else none

/-- After the name that begins a statement: an arrow, or a colon where the name is the keyword. -/
def afterName (name : Slice) (c : Char) : Option Place :=
  if isInlineBlank c then some (.afterLeftName name)
  else if c == '-' then some (.arrow name)
  else if c == ':' && name.text == startKeyword then some .colon
  else none

/-- A symbol of a right side begins. -/
def beginSymbol (rule : OpenRule) (offset : Nat) (c : Char) : Option Place :=
  if c == '"' then some (.terminal rule (.startingAt (offset + c.utf8Size)))
  else if isIdentifierStart c then some (.rightName rule ((Slice.startingAt offset).push c))
  else none

/-- After a symbol of a right side: another symbol, another alternative, or the end. -/
def continueRule (rule : OpenRule) (offset : Nat) (c : Char) : Option Place :=
  if isInlineBlank c then some (.afterSymbol rule)
  else if c == '|' then some (.alternative rule.next)
  else beginSymbol rule offset c <|> separated c

/-- The place after one more character, if it may come here. -/
def next (offset : Nat) (c : Char) : Place → Option Place
  | .margin => if c == ';' then some .margin else opening offset c
  | .indented => opening offset c
  | .comment => some (if isReturn c then .margin else .comment)
  | .leftName name =>
    if isIdentifierContinue c then some (.leftName (name.push c)) else afterName name c
  | .afterLeftName name => afterName name c
  | .arrow lhs => if c == '>' then some (.alternative ⟨lhs, [], []⟩) else none
  | .alternative rule =>
    if isInlineBlank c then some (.alternative rule) else beginSymbol rule offset c
  | .rightName rule name =>
    if isIdentifierContinue c then some (.rightName rule (name.push c))
    else continueRule (rule.add (.nonterminal name)) offset c
  | .afterSymbol rule => continueRule rule offset c
  | .terminal rule content =>
    if c == '"' then
      if content.text.isEmpty then none else some (.afterSymbol (rule.add (.terminal content)))
    else if isReturn c then none
    else some (.terminal rule (content.push c))
  | .colon =>
    if isInlineBlank c then some .colon
    else if isIdentifierStart c then some (.startName ((Slice.startingAt offset).push c))
    else none
  | .startName name =>
    if isIdentifierContinue c then some (.startName (name.push c))
    else if isInlineBlank c then some (.afterStartName name)
    else separated c
  | .afterStartName name =>
    if isInlineBlank c then some (.afterStartName name) else separated c

/-- Whether a place lies between statements: coming here from a complete one ends it. -/
def isBetween : Place → Bool
  | .margin | .comment => true
  | _ => false

/-- What may follow a complete statement. -/
def separators : List Expectation :=
  [.character '#', .lineEnd, .character ';', .endOfInput]

/-- The letter that would make a name longer on its way to the keyword. -/
def keywordLetter? (name : String) : Option Char :=
  if name.toList.isPrefixOf startKeyword.toList then startKeyword.toList[name.length]? else none

/-- What may come next, at the end of the text or before another character. -/
def expected (atEnd : Bool) : Place → List Expectation
  | .margin =>
    [.blank, .character '#', .lineEnd, .character ';', .character 's', .identifier, .endOfInput]
  | .indented => [.blank, .character '#', .lineEnd, .character 's', .identifier, .endOfInput]
  -- Everything may come in a comment, so nothing is ever missing there.
  | .comment => []
  | .leftName name =>
    if atEnd then [.anything, .character '-']
    else if name.text == startKeyword then
      [.blank, .character ':', .identifier, .character '-']
    else
      (keywordLetter? name.text).toList.map .character ++ [.identifier, .blank, .character '-']
  | .afterLeftName name =>
    if atEnd then [.anything, .character '-']
    else if name.text == startKeyword then [.blank, .character ':', .character '-']
    else [.blank, .character '-']
  | .arrow _ => [.character '>']
  | .alternative _ => if atEnd then [.anything] else [.blank, .character '"', .identifier]
  | .rightName _ _ =>
    [.identifier, .blank, .character '"', .character '|'] ++ separators
  | .afterSymbol _ =>
    [.blank, .character '"', .identifier, .character '|'] ++ separators
  | .terminal _ content =>
    if content.text.isEmpty then [.somethingElse] else [.somethingElse, .character '"']
  | .colon => if atEnd then [.anything] else [.blank, .identifier]
  | .startName _ => [.identifier, .blank] ++ separators
  | .afterStartName _ => .blank :: separators

end Place

/-- Reads the rest of a definition from a place in it. -/
def readFrom (place : Place) (offset : Nat) : List Char → Except SyntaxError (List Statement)
  | [] =>
    if place.mayEnd then .ok place.statement?.toList
    else .error ⟨none, place.expected true, ⟨offset, offset⟩⟩
  | c :: rest =>
    match place.next offset c with
    | none => .error ⟨some c, place.expected false, ⟨offset, offset + c.utf8Size⟩⟩
    | some following =>
      let finished := if following.isBetween then place.statement?.toList else []
      (finished ++ ·) <$> readFrom following (offset + c.utf8Size) rest

end Cyk.Definition
