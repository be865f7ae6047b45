import Cyk.Balinese
import Cyk.Checker
import Cyk.Command.Directory
import Cyk.Command.Options
import Cyk.Definition.Highlight
import Cyk.Grid

/-!
# Running the program

What the program writes and how it ends, given its options, the grammar file and the standard
input.  Every sentence is reported, whatever became of those before it.
-/

namespace Cyk.Command

open Text

/-- What a run leaves behind. -/
structure Outcome where
  code : Nat
  output : String := ""
  errors : String := ""
deriving DecidableEq, Repr

/-- What the program was doing when it failed, and why: the reason, and the reason for that. -/
structure Failure where
  activity : String
  causes : List String
deriving DecidableEq, Repr

/-- A text whose lines after the first are indented by some spaces. -/
def indentLines (spaces : Nat) (text : List Char) : List Char :=
  text.flatMap fun c => if c = '\n' then '\n' :: List.replicate spaces ' ' else [c]

/-- A cause on its own. -/
def onlyCause (cause : String) : String :=
  "    " ++ String.ofList (indentLines 4 cause.toList)

/-- One of several causes, with its number. -/
def numberedCause (number : Nat) (cause : String) : String :=
  "    " ++ toString number ++ ": " ++ String.ofList (indentLines 7 cause.toList)

/-- The causes, one to a line, with numbers if there are several. -/
def causeLines : List String → List String
  | [cause] => [onlyCause cause]
  | causes => causes.mapIdx numberedCause

/-- The failure as it is written out. -/
def Failure.text (failure : Failure) : String :=
  "Error: " ++ failure.activity ++ "\n\nCaused by:\n" ++
    String.join ((causeLines failure.causes).map (· ++ "\n"))

/-- A grammar error in a definition is a cause of its own, beneath the one that wraps it. -/
def definitionCauses (error : CheckerError) : List String :=
  match error with
  | .invalid inner => [error.message, inner.message]
  | _ => [error.message]

/-- The checker of a definition, with the start symbol of the options. -/
def loadChecker (definition : String) (start : Option String) : Except Failure Checker := do
  let checker ←
    (Checker.ofDefinition definition).mapError fun error =>
      ⟨"loading grammar", definitionCauses error⟩
  match start with
  | none => return checker
  | some symbol =>
    (checker.startingAt symbol).mapError fun error => ⟨"loading grammar", [error.message]⟩

/-- The lines of an input: each ends at a line feed, and the last may lack it.  A carriage return
before the line feed belongs to the line end. -/
def inputLines (input : List UInt8) : List (List UInt8) :=
  match input with
  | [] => []
  | byte :: rest =>
    if byte = 10 then [] :: inputLines rest
    else
      match inputLines rest with
      | [] => [[byte]]
      | line :: more =>
        if byte = 13 && line.isEmpty && rest.head? == some 10 then [] :: more
        else (byte :: line) :: more

/-- The text of some bytes. -/
def decode (bytes : List UInt8) : Except FileFault String :=
  match String.fromUTF8? ⟨bytes.toArray⟩ with
  | some text => .ok text
  | none => .error .notText

/-- Whether a line has nothing but blanks. -/
def isBlankLine (line : String) : Bool :=
  line.toList.all isBlank

/-- The pieces of the report on a sentence. -/
def reportPieces (sentence : String) (analysis : Analysis) (colour : Bool) : List Piece :=
  let verdict : Piece :=
    if analysis.verdict.accepted then
      ⟨"VALID", some { weight := some .bold, colour := some .green }⟩
    else ⟨"INVALID", some { weight := some .bold, colour := some .red }⟩
  let heading :=
    [verdict,
      ⟨" " ++ String.ofList (trim sentence.toList) ++ " (" ++
        toString analysis.verdict.tokenCount ++ " tokens)\n", none⟩]
  let unknown : List Piece :=
    if analysis.unknown.isEmpty then []
    else
      [⟨"unknown:", some { colour := some .yellow }⟩,
        ⟨" " ++ ", ".intercalate (analysis.unknown.map (·.text)) ++ "\n", none⟩]
  heading ++ unknown ++ Grid.pieces analysis.view colour

/-- The report on a sentence, and whether it was accepted.  A sentence without tokens is not. -/
def report (checker : Checker) (colour escapes : Bool) (sentence : String) : String × Bool :=
  match checker.check sentence with
  | .ok analysis =>
    (renderPieces escapes (reportPieces sentence analysis colour), analysis.verdict.accepted)
  | .error _ =>
    (renderPieces escapes [⟨"empty input", some { weight := some .faint }⟩, ⟨"\n", none⟩], false)

/-- The run that reports on some sentences: it succeeds if all are accepted. -/
def reportAll (reports : List (String × Bool)) : Outcome where
  code := if reports.all (·.2) then 0 else 1
  output := String.join (reports.map (·.1))

/-- The sentences of an input, one to a line, up to a line that is no text.  Blank lines are left
out. -/
def inputSentences : List (List UInt8) → List String × Option FileFault
  | [] => ([], none)
  | line :: rest =>
    match decode line with
    | .error fault => ([], some fault)
    | .ok text =>
      let (sentences, fault) := inputSentences rest
      (if isBlankLine text then sentences else text :: sentences, fault)

/-- The highlighted definition, or the reason why there is none. -/
def highlightOutput (definition : String) (escapes : Bool) : String :=
  match Definition.read definition with
  | .error error =>
    "Error: " ++ error.located ++ "\n--- continuing to highlight valid parts ---\n" ++
      "No rules parsed.\n"
  | .ok statements => renderPieces escapes (Definition.highlight definition statements) ++ "\n"

/-- A run that ends with a failure, after some output. -/
def Outcome.ofFailure (output : String) (failure : Failure) : Outcome :=
  { code := 1, output, errors := failure.text }

/-- Checks the sentences of the options, or those of the standard input if there are none. -/
def checkSentences (options : Options) (checker : Checker) (input : List UInt8) (escapes : Bool) :
    Outcome :=
  let report := report checker (!options.plain) escapes
  if options.sentences.isEmpty then
    let (sentences, fault) := inputSentences (inputLines input)
    let outcome := reportAll (sentences.map report)
    match fault with
    | none => outcome
    | some fault => .ofFailure outcome.output ⟨"reading stdin", [fault.message]⟩
  else reportAll (options.sentences.map report)

/-- Whether escape sequences are written: someone has to ask for them, and nobody against them. -/
def Options.escapes (options : Options) (forced : Option String) : Bool :=
  !options.plain && forced.any (· != "0")

/-- The definition to use: that of the grammar file, or the one that comes with the program. -/
def Options.definition (options : Options) (fileBytes : String → Except FileFault (List UInt8)) :
    Except Failure String :=
  match options.grammar with
  | none => .ok Balinese.definition
  | some path =>
    (fileBytes path >>= decode).mapError fun fault => ⟨"reading grammar " ++ path, [fault.message]⟩

/-- A run with its options understood. -/
def runOptions (options : Options) (fileBytes : String → Except FileFault (List UInt8))
    (input : List UInt8) (forced : Option String) : Outcome :=
  let escapes := options.escapes forced
  match options.definition fileBytes with
  | .error failure => .ofFailure "" failure
  | .ok definition =>
    if options.highlight then { code := 0, output := highlightOutput definition escapes }
    else
      match loadChecker definition options.start with
      | .error failure => .ofFailure "" failure
      | .ok checker => checkSentences options checker input escapes

/-- The name and version of the program. -/
def versionText : String := "balicyk 0.1.0\n"

/-- How to call the program. -/
def usageText : String :=
  "Usage: balicyk [OPTIONS] [SENTENCES]...\n\n" ++
  "Arguments:\n" ++
  "  [SENTENCES]...  Sentences to check (default: one per line from stdin)\n\n" ++
  "Options:\n" ++
  "  -g, --grammar <FILE>  Grammar definition file (default: the bundled Balinese grammar)\n" ++
  "  -s, --start <SYMBOL>  Start symbol (default: the grammar's own)\n" ++
  "      --plain           No colors\n" ++
  "      --highlight       Print the grammar definition with highlighting and exit\n" ++
  "  -h, --help            Print help\n" ++
  "  -V, --version         Print version\n"

/-- A whole run.  `fileBytes` gives the bytes of a file, `input` is the standard input, and `forced`
is the setting by which the surroundings ask for colours. -/
def run (arguments : List String) (fileBytes : String → Except FileFault (List UInt8))
    (input : List UInt8) (forced : Option String) : Outcome :=
  match Options.parse arguments with
  | .ok options => runOptions options fileBytes input forced
  | .error .version => { code := 0, output := versionText }
  | .error .help => { code := 0, output := usageText }
  | .error (.usage error) =>
    { code := 2,
      errors := "error: " ++ error.message ++ "\n\nFor more information, try '--help'.\n" }

end Cyk.Command
