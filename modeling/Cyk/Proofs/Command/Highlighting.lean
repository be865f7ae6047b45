import Cyk.Command.Run
import Cyk.Proofs.Definition.Highlighting

/-!
# Printing a definition in colour

The program prints a grammar with its names and terminals in colour.  Apart from the escape
sequences it prints the text it was given, and a line feed.
-/

namespace Cyk.Command

open Text Definition

variable {definition : String} {statements : List Statement}

theorem highlightOutput_of_read (readable : Definition.read definition = .ok statements)
    (escapes : Bool) :
    highlightOutput definition escapes =
      renderPieces escapes (highlight definition statements) ++ "\n" := by
  rw [highlightOutput, readable]

theorem highlightOutput_false (readable : Definition.read definition = .ok statements) :
    highlightOutput definition false = definition ++ "\n" := by
  rw [highlightOutput_of_read readable, renderPieces_highlight readable]

theorem withoutEscapes_highlightOutput (readable : Definition.read definition = .ok statements)
    (plain : '\x1b' ∉ definition.toList) (escapes : Bool) :
    withoutEscapes (highlightOutput definition escapes) = definition ++ "\n" := by
  have plainPieces : ∀ piece ∈ highlight definition statements, '\x1b' ∉ piece.text.toList :=
    fun _ member letter => plain (mem_of_mem_highlight readable member letter)
  have plainRest : '\x1b' ∉ "\n".toList := by decide
  rw [highlightOutput_of_read readable, withoutEscapes_renderPieces escapes plainPieces plainRest,
    renderPieces_highlight readable]

/-- A run that is asked for highlighting prints the definition and does nothing else. -/
theorem run_highlight {arguments : List String} {options : Options}
    {fileBytes : String → Except FileFault (List UInt8)}
    (parsed : Options.parse arguments = .ok options) (asked : options.highlight = true)
    (found : options.definition fileBytes = .ok definition) (input : List UInt8)
    (forced : Option String) :
    run arguments fileBytes input forced =
      { code := 0, output := highlightOutput definition (options.escapes forced) } := by
  rw [run, parsed]
  simp only [runOptions, found, asked, if_true]

/-- **Highlighting loses nothing.**  Each name and each terminal of a definition is the nonempty
part of the text that its span tells; they follow each other without overlap, so sorting the marks
leaves them as they are, one for each, and each says whether it is a start symbol, a left side, a
terminal or a nonterminal.  Without colours a run that highlights the definition prints it as it is,
with a line feed behind it; and in colour it prints the same with escape sequences added. -/
theorem highlighting_loses_nothing (definition : String) (statements : List Statement)
    (readable : Definition.read definition = .ok statements) :
    (∀ slice ∈ statements.flatMap Statement.slices, slice.text ≠ "" ∧
      ∃ front back : String, definition = front ++ slice.text ++ back ∧
        slice.span = ⟨front.utf8ByteSize, (front ++ slice.text).utf8ByteSize⟩) ∧
      (statements.flatMap Statement.slices).Pairwise (fun slice other =>
        slice.span.start < slice.span.stop ∧ slice.span.stop ≤ other.span.start) ∧
      marks statements = statements.flatMap Statement.marks ∧
      (marks statements).map Mark.slice = statements.flatMap Statement.slices ∧
      (∀ mark, mark ∈ marks statements ↔ IsMarked statements mark) ∧
      ∀ (arguments : List String) (options : Options)
        (fileBytes : String → Except FileFault (List UInt8)) (input : List UInt8)
        (forced : Option String),
        Options.parse arguments = .ok options → options.highlight = true →
          options.definition fileBytes = .ok definition →
            ∃ output, run arguments fileBytes input forced = { code := 0, output } ∧
              (options.escapes forced = false → output = definition ++ "\n") ∧
              ('\x1b' ∉ definition.toList → withoutEscapes output = definition ++ "\n") := by
  have unmoved := marks_eq_flatMap (cut_of_read readable)
  refine ⟨fun _ => exists_parts_of_read readable, pairwise_of_read readable, unmoved, ?_, ?_, ?_⟩
  · rw [unmoved, map_slice_flatMap_marks]
  · intro mark
    rw [unmoved, mem_flatMap_marks_iff]
  · intro arguments options fileBytes input forced parsed asked found
    refine ⟨_, run_highlight parsed asked found input forced, ?_, ?_⟩
    · intro plain
      rw [plain, highlightOutput_false readable]
    · intro plain
      exact withoutEscapes_highlightOutput readable plain _

/-- Names of letters of two bytes, signs of the language in a terminal and in comments, and line
ends of two and of three bytes. -/
def layered : String :=
  "# faint: é -> \"\r\nstart : Béné\r\n\tBéné->Béné\"é #\"|x\u2028;x  -> \"; |\"#é"

theorem highlighting_loses_nothing_of_layered :
    ∃ statements, Definition.read layered = .ok statements ∧
      (statements.flatMap Statement.slices).map (·.span) =
        [⟨26, 32⟩, ⟨35, 41⟩, ⟨43, 49⟩, ⟨50, 54⟩, ⟨56, 57⟩, ⟨61, 62⟩, ⟨68, 71⟩] ∧
      marks statements = statements.flatMap Statement.marks ∧
      (marks statements).map (·.kind) = [.startSymbol, .leftSide, .nonterminal, .terminal,
        .nonterminal, .leftSide, .terminal] ∧
      (∀ mark, mark ∈ marks statements ↔ IsMarked statements mark) ∧
      run ["--highlight", "-g", "layers"] (fun _ => .ok layered.toUTF8.data.toList) [] none =
        { code := 0, output := layered ++ "\n" } ∧
      ∃ output, run ["-g", "layers", "--highlight"] (fun _ => .ok layered.toUTF8.data.toList) []
          (some "1") = { code := 0, output } ∧
        withoutEscapes output = layered ++ "\n" := by
  have spans : (Definition.read layered).toOption.map
      (fun statements => (statements.flatMap Statement.slices).map (·.span)) =
        some [⟨26, 32⟩, ⟨35, 41⟩, ⟨43, 49⟩, ⟨50, 54⟩, ⟨56, 57⟩, ⟨61, 62⟩, ⟨68, 71⟩] := by
    decide +kernel
  have kinds : (Definition.read layered).toOption.map
      (fun statements => (statements.flatMap Statement.marks).map (·.kind)) =
        some [.startSymbol, .leftSide, .nonterminal, .terminal, .nonterminal, .leftSide,
          .terminal] := by
    decide +kernel
  cases readable : Definition.read layered with
  | error error =>
    rw [readable] at spans
    contradiction
  | ok statements =>
    rw [readable] at spans kinds
    have plain : '\x1b' ∉ layered.toList := by decide +kernel
    have decoded : decode layered.toUTF8.data.toList = .ok layered := by rfl
    have parsed : Options.parse ["--highlight", "-g", "layers"] =
        .ok { highlight := true, grammar := some "layers" } := by rfl
    have parsed' : Options.parse ["-g", "layers", "--highlight"] =
        .ok { highlight := true, grammar := some "layers" } := by rfl
    have found : Options.definition { highlight := true, grammar := some "layers" }
        (fun _ => .ok layered.toUTF8.data.toList) = .ok layered := by
      rw [Options.definition]
      exact Cyk.Outcome.mapError_eq_ok_iff.mpr decoded
    rcases highlighting_loses_nothing layered statements readable with
      ⟨-, -, unmoved, -, marked, prints⟩
    rcases prints _ _ _ [] none parsed rfl found with ⟨output, ran, uncoloured, -⟩
    rcases prints _ _ _ [] (some "1") parsed' rfl found with ⟨coloured, ran', -, removed⟩
    rw [uncoloured rfl] at ran
    refine ⟨statements, rfl, Option.some.inj spans, unmoved, ?_, marked, ran, coloured, ran',
      removed plain⟩
    rw [unmoved]
    exact Option.some.inj kinds

end Cyk.Command
