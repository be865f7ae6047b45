import Cyk.Balinese
import Cyk.Chart
import Cyk.Chart.Verdict
import Cyk.Chart.View
import Cyk.Checker
import Cyk.Command.Directory
import Cyk.Command.Options
import Cyk.Command.Run
import Cyk.Definition.Highlight
import Cyk.Definition.Meaning
import Cyk.Definition.Parser
import Cyk.Definition.Printer
import Cyk.Definition.Reader
import Cyk.Definition.Statement
import Cyk.Definition.SyntaxError
import Cyk.Grammar
import Cyk.Grammar.Derivation
import Cyk.Grammar.Draft
import Cyk.Grammar.Phrases
import Cyk.Grammar.Rules
import Cyk.Grammar.UnitClosure
import Cyk.Grid
import Cyk.Index
import Cyk.Journal
import Cyk.Main
import Cyk.Names
import Cyk.Proofs.Chart.Closure
import Cyk.Proofs.Chart.Counting
import Cyk.Proofs.Chart.Filling
import Cyk.Proofs.Chart.Inclusion
import Cyk.Proofs.Chart.LifeCycle
import Cyk.Proofs.Chart.Parts
import Cyk.Proofs.Chart.Recognition
import Cyk.Proofs.Chart.Unknown
import Cyk.Proofs.Chart.View
import Cyk.Proofs.Checker.Alignment
import Cyk.Proofs.Checker.Labels
import Cyk.Proofs.Checker.Meaning
import Cyk.Proofs.Checker.Printing
import Cyk.Proofs.Checker.Retokenizing
import Cyk.Proofs.Checker.StartSymbol
import Cyk.Proofs.Checker.Typing
import Cyk.Proofs.Checker.Unknown
import Cyk.Proofs.Command.Arguments
import Cyk.Proofs.Command.Highlighting
import Cyk.Proofs.Command.Lines
import Cyk.Proofs.Command.Sentences
import Cyk.Proofs.Definition.Acceptance
import Cyk.Proofs.Definition.Characters
import Cyk.Proofs.Definition.Combinators
import Cyk.Proofs.Definition.Comparison
import Cyk.Proofs.Definition.ContextFree
import Cyk.Proofs.Definition.Conversion
import Cyk.Proofs.Definition.Cutting
import Cyk.Proofs.Definition.Declarations
import Cyk.Proofs.Definition.Forward
import Cyk.Proofs.Definition.Highlighting
import Cyk.Proofs.Definition.Language
import Cyk.Proofs.Definition.Lexing
import Cyk.Proofs.Definition.LineEnds
import Cyk.Proofs.Definition.Place
import Cyk.Proofs.Definition.Printing
import Cyk.Proofs.Definition.Productions
import Cyk.Proofs.Definition.Reading
import Cyk.Proofs.Definition.Remainder
import Cyk.Proofs.Definition.RightSides
import Cyk.Proofs.Definition.Separation
import Cyk.Proofs.Definition.Separators
import Cyk.Proofs.Definition.Shape
import Cyk.Proofs.Definition.Spacing
import Cyk.Proofs.Definition.Spelling
import Cyk.Proofs.Definition.Statements
import Cyk.Proofs.Definition.Steps
import Cyk.Proofs.Definition.Symbols
import Cyk.Proofs.Definition.Viability
import Cyk.Proofs.Grammar.Ancestors
import Cyk.Proofs.Grammar.Build
import Cyk.Proofs.Grammar.Calls
import Cyk.Proofs.Grammar.Derivation
import Cyk.Proofs.Grammar.Faults
import Cyk.Proofs.Grammar.Folding
import Cyk.Proofs.Grammar.Inclusion
import Cyk.Proofs.Grammar.Invariant
import Cyk.Proofs.Grammar.LongestMatch
import Cyk.Proofs.Grammar.Phrases
import Cyk.Proofs.Grammar.Walk
import Cyk.Proofs.Grid.Colour
import Cyk.Proofs.Grid.Fields
import Cyk.Proofs.Grid.Widths
import Cyk.Proofs.Outcome
import Cyk.Proofs.Text.Blanks
import Cyk.Proofs.Text.Bytes
import Cyk.Proofs.Text.Clusters
import Cyk.Proofs.Text.Layout
import Cyk.Proofs.Text.Lowercase
import Cyk.Proofs.Text.Partition
import Cyk.Proofs.Text.Parts
import Cyk.Proofs.Text.Retokenizing
import Cyk.Proofs.Text.Segments
import Cyk.Proofs.Text.Sentences
import Cyk.Proofs.Text.Styled
import Cyk.Proofs.Text.Terminals
import Cyk.Proofs.Text.Trimming
import Cyk.Proofs.Text.Words
import Cyk.Proofs.Text.Wordwise
import Cyk.Text.Blank
import Cyk.Text.CodePoints
import Cyk.Text.Grapheme
import Cyk.Text.Grapheme.Table
import Cyk.Text.Identifier
import Cyk.Text.Identifier.Table
import Cyk.Text.Lowercase
import Cyk.Text.Lowercase.Table
import Cyk.Text.Normal
import Cyk.Text.Quoted
import Cyk.Text.Quoted.Table
import Cyk.Text.Styled
import Cyk.Text.Words
import Cyk.Token
import Cyk.Tokenizer
import Cyk.Triangle
