import Cyk.Proofs.Checker.Meaning
import Cyk.Proofs.Command.Arguments
import Cyk.Proofs.Command.Lines
import Cyk.Proofs.Text.Blanks

/-!
# Sentences of a run

A run takes its sentences from its arguments or from the lines of its input.  The report on a
sentence does not tell whether blanks were behind it, so the sentences that are typed one to a line
are reported like those that are given as arguments.
-/

namespace Cyk

open Text

/-- Blanks behind a sentence do not change what is said about it. -/
theorem Checker.check_append_blanks (checker : Checker) {blanks : String}
    (blank : ∀ c ∈ blanks.toList, isBlank c = true) (sentence : String) :
    checker.check (sentence ++ blanks) = checker.check sentence := by
  have tokens : checker.tokenize (sentence ++ blanks) = checker.tokenize sentence := by
    rw [tokenize, Tokenizer.tokenize, normalize_append_blanks blank, tokenize, Tokenizer.tokenize]
  rw [check, chart, tokens, check, chart]

/-- Two kinds of noun phrase, one of them a phrase of two words, under a recursive start symbol. -/
def Checker.sleepers : String :=
  "S -> S S | NP VP # sentences\nNP -> N | \"Bli  Wayan\"; N -> \"meongé\"\n" ++
    "VP -> \"pules\"\nstart: S"

namespace Command

/-! ## Reports -/

theorem report_append_blanks (checker : Checker) (colour escapes : Bool) {blanks : String}
    (blank : ∀ c ∈ blanks.toList, isBlank c = true) (sentence : String) :
    report checker colour escapes (sentence ++ blanks) =
      report checker colour escapes sentence := by
  rw [report, report, checker.check_append_blanks blank]
  cases checker.check sentence with
  | error error => rfl
  | ok analysis =>
    simp only [reportPieces, String.toList_append, trim_append_blanks blank]

/-- The report on what is read of a line is the report on what was typed. -/
theorem report_lineText (checker : Checker) (colour escapes : Bool) (line : String × LineEnd) :
    report checker colour escapes (lineText line) = report checker colour escapes line.1 := by
  rcases exists_append_lineText line with ⟨blanks, blank, whole⟩
  calc
    report checker colour escapes (lineText line)
      = report checker colour escapes (lineText line ++ blanks) :=
        (report_append_blanks checker colour escapes blank _).symm
    _ = report checker colour escapes (line.1 ++ line.2.lead) := by rw [whole]
    _ = report checker colour escapes line.1 :=
        report_append_blanks checker colour escapes (fun _ => LineEnd.isBlank_of_mem_lead) _

theorem report_snd_iff {checker : Checker} {colour escapes : Bool} {sentence : String} :
    (report checker colour escapes sentence).2 = true ↔ checker.accepts sentence = .ok true := by
  unfold report Checker.check Checker.accepts
  cases checker.chart sentence with
  | error error => simp [Functor.map, Except.map]
  | ok chart => simp [Functor.map, Except.map, Analysis.ofChart, Chart.verdict]

theorem code_reportAll_eq_zero_iff {reports : List (String × Bool)} :
    (reportAll reports).code = 0 ↔ ∀ report ∈ reports, report.2 = true := by
  simp [reportAll]

/-! ## Runs -/

/-- A run whose definition loads goes on to the sentences. -/
theorem run_eq_checkSentences {arguments : List String}
    {fileBytes : String → Except FileFault (List UInt8)} {options : Options} {definition : String}
    {checker : Checker} (understood : Options.parse arguments = .ok options)
    (checking : options.highlight = false) (found : options.definition fileBytes = .ok definition)
    (loaded : loadChecker definition options.start = .ok checker) (input : List UInt8)
    (forced : Option String) :
    run arguments fileBytes input forced =
      checkSentences options checker input (options.escapes forced) := by
  rw [run, understood]
  simp only [runOptions, found, checking, loaded, Bool.false_eq_true, if_false]

/-- Arguments without sentences that ask for sentences to be checked, and a definition that loads
with them. -/
structure Ready (arguments : List String) (fileBytes : String → Except FileFault (List UInt8))
    (options : Options) (checker : Checker) : Prop where
  understood : Options.parse arguments = .ok options
  noDashes : "--" ∉ arguments
  noSentences : options.sentences = []
  checking : options.highlight = false
  loads : ∃ definition, options.definition fileBytes = .ok definition ∧
    loadChecker definition options.start = .ok checker

namespace Ready

variable {arguments : List String} {fileBytes : String → Except FileFault (List UInt8)}
  {options : Options} {checker : Checker}

theorem run_arguments (ready : Ready arguments fileBytes options checker) {sentences : List String}
    (some : sentences ≠ []) (input : List UInt8) (forced : Option String) :
    run (arguments ++ "--" :: sentences) fileBytes input forced =
      reportAll (sentences.map (report checker (!options.plain) (options.escapes forced))) := by
  rcases ready.loads with ⟨definition, found, loaded⟩
  have parsed := Options.parse_append ready.understood ready.noDashes sentences
  rw [ready.noSentences, List.nil_append] at parsed
  have nonempty : ¬ sentences.isEmpty = true := by simpa using some
  -- The definition, the start symbol and the colours do not depend on the sentences.
  rw [run_eq_checkSentences parsed ready.checking found loaded, checkSentences, if_neg nonempty]
  rfl

theorem run_typed (ready : Ready arguments fileBytes options checker)
    {lines : List (String × LineEnd)} (unbroken : ∀ line ∈ lines, '\n' ∉ line.1.toList)
    (visible : ∀ line ∈ lines, ∃ c ∈ line.1.toList, isBlank c = false) (forced : Option String) :
    run arguments fileBytes (typed lines) forced =
      reportAll ((lines.map (·.1)).map
        (report checker (!options.plain) (options.escapes forced))) := by
  rcases ready.loads with ⟨definition, found, loaded⟩
  have same : (lines.map lineText).map (report checker (!options.plain) (options.escapes forced)) =
      (lines.map (·.1)).map (report checker (!options.plain) (options.escapes forced)) := by
    rw [List.map_map, List.map_map]
    exact List.map_congr_left fun line _ => report_lineText checker _ _ line
  rw [run_eq_checkSentences ready.understood ready.checking found loaded, checkSentences,
    ready.noSentences, if_pos List.isEmpty_nil, inputSentences_typed unbroken visible, ← same]

end Ready

/-- **Sentences are reported alike, whichever way they come in.**  A run that is given some
sentences behind two dashes and a run that reads them from its input, one to a line and with either
line end, have the same outcome, if each sentence has a character that is not blank and no line
feed.  They write what the runs on the single sentences write, one after the other, and succeed just
when all sentences are accepted. -/
theorem sentences_are_reported_alike (arguments : List String)
    (fileBytes : String → Except FileFault (List UInt8)) (options : Options) (checker : Checker)
    (ready : Ready arguments fileBytes options checker) (lines : List (String × LineEnd))
    (some : lines ≠ [])
    (proper : ∀ line ∈ lines,
      (∃ c ∈ line.1.toList, isBlank c = false) ∧ '\n' ∉ line.1.toList)
    (input : List UInt8) (forced : Option String) :
    ∃ outcome, run (arguments ++ "--" :: lines.map (·.1)) fileBytes input forced = outcome ∧
      run arguments fileBytes (typed lines) forced = outcome ∧
      outcome.output = String.join (lines.map fun line =>
        (run (arguments ++ ["--", line.1]) fileBytes input forced).output) ∧
      outcome.errors = "" ∧
      (outcome.code = 0 ↔ ∀ line ∈ lines, checker.accepts line.1 = .ok true) ∧
      (outcome.code = 0 ∨ outcome.code = 1) := by
  have unbroken : ∀ line ∈ lines, '\n' ∉ line.1.toList := fun line member => (proper line member).2
  have visible : ∀ line ∈ lines, ∃ c ∈ line.1.toList, isBlank c = false :=
    fun line member => (proper line member).1
  have nonempty : lines.map (·.1) ≠ [] := by simpa using some
  refine ⟨_, ready.run_arguments nonempty input forced, ready.run_typed unbroken visible forced,
    ?_, rfl, ?_, ?_⟩
  · have alone (sentence : String) :
        (run (arguments ++ ["--", sentence]) fileBytes input forced).output =
          (report checker (!options.plain) (options.escapes forced) sentence).1 := by
      rw [ready.run_arguments (List.cons_ne_nil sentence []) input forced]
      simp [reportAll]
    simp only [alone, reportAll, List.map_map]
    rfl
  · rw [code_reportAll_eq_zero_iff, List.map_map, List.forall_mem_map]
    exact forall₂_congr fun line _ => report_snd_iff
  · unfold reportAll
    split
    · exact Or.inl rfl
    · exact Or.inr rfl

/-- A rejected sentence, one without tokens and one that is accepted, with either line end; the
first one ends in a carriage return. -/
def nounPhrases : List (String × LineEnd) :=
  [("Meongé  pules\r", .lineFeed), (" . ", .returnAndLineFeed), ("BLI wayan", .returnAndLineFeed)]

theorem sentences_are_reported_alike_of_nounPhrases :
    ∃ checker, loadChecker Checker.sleepers (some "NP") = .ok checker ∧
      typed nounPhrases = "Meongé  pules\r\n . \r\nBLI wayan\r\n".toUTF8.data.toList ∧
      ∃ outcome,
        run ["-g", "sleepers", "--start", "NP", "--", "Meongé  pules\r", " . ", "BLI wayan"]
            (fun _ => .ok Checker.sleepers.toUTF8.data.toList) [] none = outcome ∧
          run ["-g", "sleepers", "--start", "NP"]
            (fun _ => .ok Checker.sleepers.toUTF8.data.toList) (typed nounPhrases) none = outcome ∧
          (outcome.code = 0 ↔ ∀ line ∈ nounPhrases, checker.accepts line.1 = .ok true) := by
  have loads : (loadChecker Checker.sleepers (some "NP")).isOk = true := by decide +kernel
  cases loaded : loadChecker Checker.sleepers (some "NP") with
  | error error =>
    rw [loaded] at loads
    contradiction
  | ok checker =>
    have found : Options.definition { grammar := some "sleepers", start := some "NP" }
        (fun _ => .ok Checker.sleepers.toUTF8.data.toList) = .ok Checker.sleepers := by
      rw [Options.definition]
      exact Cyk.Outcome.mapError_eq_ok_iff.mpr (decode_bytes Checker.sleepers)
    have ready : Ready ["-g", "sleepers", "--start", "NP"]
        (fun _ => .ok Checker.sleepers.toUTF8.data.toList)
        { grammar := some "sleepers", start := some "NP" } checker :=
      { understood := by rfl
        noDashes := by decide
        noSentences := rfl
        checking := rfl
        loads := ⟨_, found, loaded⟩ }
    have some : nounPhrases ≠ [] := List.cons_ne_nil _ _
    have visible : ∀ line ∈ nounPhrases, line.1.toList.any (!isBlank ·) = true := by
      decide +kernel
    have unbroken : ∀ line ∈ nounPhrases, '\n' ∉ line.1.toList := by decide +kernel
    have proper : ∀ line ∈ nounPhrases,
        (∃ c ∈ line.1.toList, isBlank c = false) ∧ '\n' ∉ line.1.toList :=
      fun line member => ⟨by simpa using visible line member, unbroken line member⟩
    rcases sentences_are_reported_alike _ _ _ checker ready nounPhrases some proper [] none with
      ⟨outcome, ran, typedRan, -, -, accepted, -⟩
    exact ⟨checker, rfl, by decide +kernel, outcome, ran, typedRan, accepted⟩

end Command

end Cyk
