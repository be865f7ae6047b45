import Cyk.Grammar
import Cyk.Token
import Cyk.Triangle

/-!
# Charts

For every span of a sentence, the nonterminals that derive it.  The cells of longer spans are made
from those of shorter ones: a span is cut in two, and a binary rule joins what the parts have.
-/

namespace Cyk

/-- A sentence and a cell of nonterminals for each of its spans. -/
structure Chart where
  grammar : Grammar
  tokens : List Token
  cells : Triangle Names tokens.length

namespace Chart

/-- The chart in which nothing has been derived yet. -/
def new (grammar : Grammar) (tokens : List Token) : Chart :=
  ⟨grammar, tokens, .replicate tokens.length ∅⟩

/-- The number of tokens. -/
def size (chart : Chart) : Nat :=
  chart.tokens.length

/-- The cell of the span of `len` tokens from position `start` on, counted from one. -/
def cell (chart : Chart) (start len : Nat) : Option Names :=
  chart.cells.get? start len

/-- The nonterminals of a span; none where the span does not fit. -/
def symbols (chart : Chart) (start len : Nat) : Names :=
  (chart.cell start len).getD ∅

/-- All spans of `size` positions, shorter ones first and then from left to right. -/
def spans (size : Nat) : List (Nat × Nat) :=
  (List.range size).flatMap fun shorter =>
    (List.range (size - shorter)).map fun before => (before + 1, shorter + 1)

/-- The set with the ancestors of all its members.  Ancestors of ancestors are ancestors, so once is
enough. -/
def closeUnits (grammar : Grammar) (symbols : Names) : Names :=
  symbols.insertAll (symbols.toList.flatMap fun symbol => (grammar.ancestors.get symbol).toList)

/-- The nonterminals with a lexical rule for the token at a position. -/
def lexicalSymbols (chart : Chart) (position : Nat) : Names :=
  match chart.tokens[position - 1]? with
  | some token => chart.grammar.categories.get token.text
  | none => ∅

/-- The nonterminals that a binary rule makes from the two parts of a span, cut after `cut`
tokens. -/
def joined (chart : Chart) (start len cut : Nat) : List String :=
  let left := chart.symbols start cut
  let right := chart.symbols (start + cut) (len - cut)
  (chart.grammar.rules.binary.filter fun rule => rule.left ∈ left && rule.right ∈ right).map (·.lhs)

/-- The nonterminals that a binary rule makes from any two parts of a span. -/
def binarySymbols (chart : Chart) (start len : Nat) : Names :=
  .ofList <| (List.range (len - 1)).flatMap fun before => chart.joined start len (before + 1)

/-- What the rules give for a span, with the chart as it is. -/
def found (chart : Chart) (start len : Nat) : Names :=
  closeUnits chart.grammar <|
    if len = 1 then chart.lexicalSymbols start else chart.binarySymbols start len

/-- The chart with symbols added to a cell. -/
def extend (chart : Chart) (start len : Nat) (symbols : Names) : Chart :=
  { chart with cells := chart.cells.modify (·.union symbols) start len }

/-- The chart with a span filled. -/
def fillSpan (chart : Chart) (span : Nat × Nat) : Chart :=
  chart.extend span.1 span.2 (chart.found span.1 span.2)

/-- Fills some spans in order, and counts the symbols this adds. -/
def fillSpans (chart : Chart) : List (Nat × Nat) → Chart × Nat
  | [] => (chart, 0)
  | span :: rest =>
    let filled := chart.fillSpan span
    let added := (filled.symbols span.1 span.2).size - (chart.symbols span.1 span.2).size
    let (final, more) := fillSpans filled rest
    (final, added + more)

/-- The filled chart, and how many symbols were added to it. -/
def fill (chart : Chart) : Chart × Nat :=
  chart.fillSpans (spans chart.size)

/-- The filled chart of a sentence. -/
def ofTokens (grammar : Grammar) (tokens : List Token) : Chart :=
  (new grammar tokens).fill.1

/-- Adding symbols to a cell changes that cell and no other. -/
theorem cell_extend (chart : Chart) (start len start' len' : Nat) (symbols : Names) :
    (chart.extend start len symbols).cell start' len' =
      if start' = start ∧ len' = len then (chart.cell start len).map (·.union symbols)
      else chart.cell start' len' :=
  chart.cells.get?_modify _ start len start' len'

@[simp]
theorem tokens_extend (chart : Chart) (start len : Nat) (symbols : Names) :
    (chart.extend start len symbols).tokens = chart.tokens := rfl

@[simp]
theorem grammar_extend (chart : Chart) (start len : Nat) (symbols : Names) :
    (chart.extend start len symbols).grammar = chart.grammar := rfl

@[simp]
theorem tokens_fillSpan (chart : Chart) (span : Nat × Nat) :
    (chart.fillSpan span).tokens = chart.tokens := rfl

@[simp]
theorem grammar_fillSpan (chart : Chart) (span : Nat × Nat) :
    (chart.fillSpan span).grammar = chart.grammar := rfl

@[simp]
theorem tokens_fillSpans (chart : Chart) (spans : List (Nat × Nat)) :
    (chart.fillSpans spans).1.tokens = chart.tokens := by
  induction spans generalizing chart with
  | nil => rfl
  | cons span rest ih => simp [fillSpans, ih]

@[simp]
theorem grammar_fillSpans (chart : Chart) (spans : List (Nat × Nat)) :
    (chart.fillSpans spans).1.grammar = chart.grammar := by
  induction spans generalizing chart with
  | nil => rfl
  | cons span rest ih => simp [fillSpans, ih]

theorem cell_new (grammar : Grammar) (tokens : List Token) (start len : Nat) :
    (new grammar tokens).cell start len =
      if Triangle.Fits tokens.length start len then some ∅ else none :=
  Triangle.get?_replicate tokens.length ∅ start len

theorem isSome_cell (chart : Chart) (start len : Nat) :
    (chart.cell start len).isSome = true ↔ Triangle.Fits chart.size start len :=
  chart.cells.isSome_get? start len

end Chart

end Cyk
