import Cyk.Text.Grapheme.Table

/-!
# Grapheme clusters

The width of a text is the number of characters a reader sees in it: extended grapheme clusters.
A cluster boundary is decided from the character after it and a short memory of the text before it.
-/

namespace Cyk.Text

namespace Grapheme

theorem points_ascending :
    ∀ points ∈ [controlPoints, extendPoints, spacingMarkPoints, prependPoints, leadingJamoPoints,
      vowelJamoPoints, trailingJamoPoints, pictographPoints, conjunctConsonantPoints,
      conjunctLinkerPoints], CodePoints.Ascending points := by
  decide +kernel

/-- How a character behaves at a cluster boundary. -/
inductive BreakClass where
  | carriageReturn
  | lineFeed
  | control
  | extender
  | joiner
  | regionalIndicator
  | prepended
  | spacingMark
  | leadingJamo
  | vowelJamo
  | trailingJamo
  | openSyllable
  | closedSyllable
  | other
deriving DecidableEq, Repr

/-- The class of a character.  A Hangul syllable without a final consonant is open; these come
every 28 code points. -/
def BreakClass.of (c : Char) : BreakClass :=
  let point := c.toNat
  if c = '\r' then .carriageReturn
  else if c = '\n' then .lineFeed
  else if point = 0x200D then .joiner
  else if 0x1F1E6 ≤ point ∧ point ≤ 0x1F1FF then .regionalIndicator
  else if 0xAC00 ≤ point ∧ point ≤ 0xD7A3 then
    if (point - 0xAC00) % 28 = 0 then .openSyllable else .closedSyllable
  else if controlPoints.has c then .control
  else if extendPoints.has c then .extender
  else if spacingMarkPoints.has c then .spacingMark
  else if prependPoints.has c then .prepended
  else if leadingJamoPoints.has c then .leadingJamo
  else if vowelJamoPoints.has c then .vowelJamo
  else if trailingJamoPoints.has c then .trailingJamo
  else .other

/-- Whether the character always stands alone. -/
def BreakClass.isControl : BreakClass → Bool
  | .carriageReturn | .lineFeed | .control => true
  | _ => false

/-- How far a text has got towards joining a pictograph to the one before it. -/
inductive Emoji where
  | absent
  /-- The text ends in a pictograph and extenders. -/
  | pictograph
  /-- The same, and a joiner. -/
  | joined
deriving DecidableEq, Repr

/-- How far a text has got towards joining a consonant to the one before it. -/
inductive Conjunct where
  | absent
  /-- The text ends in a consonant and marks. -/
  | consonant
  /-- The same, with a linker among the marks. -/
  | linked
deriving DecidableEq, Repr

/-- What the text so far tells about the next boundary. -/
structure Context where
  last : BreakClass
  /-- An odd number of regional indicators ends the text. -/
  unpaired : Bool
  emoji : Emoji
  conjunct : Conjunct
deriving DecidableEq, Repr

/-- A mark that neither links consonants nor separates them. -/
def isConjunctMark (c : Char) : Bool :=
  c.toNat != 0x200C && (BreakClass.of c == .extender || BreakClass.of c == .joiner)

/-- The context once a character has been added to the text. -/
def Context.push (context : Context) (c : Char) : Context where
  last := .of c
  unpaired := BreakClass.of c == .regionalIndicator && !context.unpaired
  emoji :=
    if pictographPoints.has c then .pictograph
    else match context.emoji, BreakClass.of c with
      | .pictograph, .extender => .pictograph
      | .pictograph, .joiner => .joined
      | _, _ => .absent
  conjunct :=
    if conjunctConsonantPoints.has c then .consonant
    else if context.conjunct = .absent then .absent
    else if conjunctLinkerPoints.has c then .linked
    else if isConjunctMark c then context.conjunct
    else .absent

/-- The context of a text that has nothing in it. -/
def Context.empty : Context where
  last := .other
  unpaired := false
  emoji := .absent
  conjunct := .absent

/-- Whether a character belongs to the cluster that ends the text before it. -/
def Context.joins (context : Context) (c : Char) : Bool :=
  match context.last, BreakClass.of c with
  | .carriageReturn, .lineFeed => true
  | before, after =>
    if before.isControl || after.isControl then false
    else match before, after with
      | _, .extender | _, .joiner | _, .spacingMark => true
      | .prepended, _ => true
      | .leadingJamo, .leadingJamo | .leadingJamo, .vowelJamo => true
      | .leadingJamo, .openSyllable | .leadingJamo, .closedSyllable => true
      | .openSyllable, .vowelJamo | .openSyllable, .trailingJamo => true
      | .vowelJamo, .vowelJamo | .vowelJamo, .trailingJamo => true
      | .closedSyllable, .trailingJamo | .trailingJamo, .trailingJamo => true
      | .regionalIndicator, .regionalIndicator => context.unpaired
      | _, _ =>
        (context.conjunct = .linked && conjunctConsonantPoints.has c) ||
          (context.emoji = .joined && pictographPoints.has c)

/-- The number of clusters that begin in a text, after what the context tells. -/
def countFrom (context : Context) : List Char → Nat
  | [] => 0
  | c :: rest => (if context.joins c then 0 else 1) + countFrom (context.push c) rest

/-- The number of clusters of a text: one begins it, and one begins wherever a character does not
join the cluster before it. -/
def count : List Char → Nat
  | [] => 0
  | c :: rest => 1 + countFrom (Context.empty.push c) rest

end Grapheme

/-- The width of a text: how many characters a reader sees in it. -/
def width (text : String) : Nat :=
  Grapheme.count text.toList

end Cyk.Text
