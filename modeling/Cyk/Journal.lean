import Cyk.Checker
import Cyk.Text.Quoted

/-!
# The journal

A record of what happens while a grammar is built and a sentence checked, for a reader who wants to
follow the work.  Every record can be told from the values that the work has produced.
-/

namespace Cyk

open Text

/-- How much detail a record gives. -/
inductive Level where
  | debug
  | trace
deriving DecidableEq, Repr

/-- The name of a level. -/
def Level.text : Level → String
  | .debug => "DEBUG"
  | .trace => "TRACE"

/-- Which part of the work a record belongs to. -/
inductive Topic where
  | checker
  | grammar
  | tokenizer
  | chart
deriving DecidableEq, Repr

/-- The name of a topic. -/
def Topic.text : Topic → String
  | .checker => "balicyk"
  | .grammar => "balicyk::grammar"
  | .tokenizer => "balicyk::tokenizer"
  | .chart => "balicyk::chart"

/-- One entry of the journal. -/
structure Record where
  level : Level
  topic : Topic
  message : String
deriving DecidableEq, Repr

namespace Journal

/-- Quoted names in brackets. -/
def quotedList (opening closing : String) (texts : List String) : String :=
  opening ++ ", ".intercalate (texts.map quoted) ++ closing

/-- A list of names, in order. -/
def listText (texts : List String) : String :=
  quotedList "[" "]" texts

/-- A set of names. -/
def setText (symbols : Names) : String :=
  quotedList "\x7b" "\x7d" symbols.toList

/-- A grammar has been built. -/
def grammarBuilt (grammar : Grammar) : Record :=
  ⟨.debug, .grammar,
    "grammar built: start=" ++ grammar.start ++ ", " ++
      toString grammar.rules.lexical.size ++ " lexical categories, " ++
      toString grammar.categories.size ++ " terminals, " ++
      toString grammar.rules.binary.length ++ " binary rules, " ++
      toString grammar.rules.unit.length ++ " unit rules, " ++
      toString grammar.phrases.length ++ " phrases"⟩

/-- Every phrase that was folded, with the place of its first word among the words of the sentence,
counted from `position`. -/
def folded (position : Nat) : List Segment → List Record
  | [] => []
  | segment :: rest =>
    let following := folded (position + segment.words.length) rest
    if segment.more.isEmpty then following
    else
      ⟨.trace, .tokenizer,
        "folded phrase `" ++ segment.text ++ "` at word " ++ toString position⟩ :: following

/-- The tokens of a sentence, if it has any. -/
def tokenized (sentence : String) (tokens : List Token) : Record :=
  if tokens.isEmpty then ⟨.debug, .checker, "empty input: " ++ quoted sentence⟩
  else ⟨.debug, .checker, "tokens: " ++ listText (tokens.map (·.text))⟩

/-- The place of a span. -/
def spanText (span : Nat × Nat) : String :=
  "(" ++ toString span.1 ++ ", " ++ toString span.2 ++ ")"

/-- What filling a span has found: for a single token, whether any lexical rule knows it, and for
any span its symbols, unless there are none. -/
def spanFilled (chart : Chart) (span : Nat × Nat) : List Record :=
  let unknown :=
    match chart.tokens[span.1 - 1]? with
    | some token =>
      if span.2 = 1 && (chart.grammar.categories.get token.text).isEmpty then
        [⟨.trace, .chart, spanText span ++ " `" ++ token.text ++ "` matches no lexical rule"⟩]
      else []
    | none => []
  let symbols := chart.symbols span.1 span.2
  unknown ++
    if symbols.isEmpty then []
    else [⟨.trace, .chart, spanText span ++ " = " ++ setText symbols⟩]

/-- A chart has been filled. -/
def chartFilled (chart : Chart) (added : Nat) : List Record :=
  (Chart.spans chart.size).flatMap (spanFilled chart) ++
    [⟨.debug, .chart,
      "chart filled: " ++ toString chart.size ++ " tokens, " ++ toString added ++
        " entries added, start symbol " ++ (if chart.accepted then "present" else "absent") ++
        " over full span"⟩]

/-- The records of checking one sentence. -/
def sentenceChecked (checker : Checker) (sentence : String) : List Record :=
  let segments := checker.tokenizer.segments (words (normalize sentence))
  let tokens := Tokenizer.number segments
  let (chart, added) := (Chart.new checker.grammar tokens).fill
  folded 1 segments ++ tokenized sentence tokens ::
    if tokens.isEmpty then [] else chartFilled chart added

end Journal

end Cyk
