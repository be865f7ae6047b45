import Cyk.Proofs.Checker.Meaning
import Cyk.Proofs.Definition.Printing

/-!
# Loading a printed grammar

Whatever a definition looked like, its grammar can be printed, and the printed definition makes the
same checker.
-/

namespace Cyk.Checker

open Definition

variable {definition : String} {checker : Checker}

theorem ofGrammar_grammar (checker : Checker) : ofGrammar checker.grammar = checker := by
  rcases checker with ⟨grammar, _, rfl⟩
  rfl

theorem ofDefinition_eq_ok_of_statements {statements : List Statement}
    (readable : read definition = .ok statements)
    (made : Definition.grammar statements = .ok checker.grammar) :
    ofDefinition definition = .ok checker := by
  rw [ofDefinition, readable]
  change ((Definition.grammar statements).mapError _ >>= _) = _
  rw [made]
  exact congrArg Except.ok checker.ofGrammar_grammar

/-- The grammar of a definition, written out with its start symbol, its binary and unit rules in
order and a rule for each terminal, is loaded again as the same grammar with the same tables and
tokenizer, with or without a line end after the last line. -/
theorem printed_grammar_loads_again (definition : String) (checker : Checker)
    (loaded : ofDefinition definition = .ok checker) :
    ofDefinition (print checker.grammar) = .ok checker ∧
      ofDefinition ("\n".intercalate (lines checker.grammar)) = .ok checker := by
  rcases exists_statements_of_ofDefinition loaded with ⟨statements, readable, made⟩
  have wellFormed := wellFormed_of_grammar made
  have spelled := wellSpelled_of_grammar (wellSpelled_of_read readable) made
  constructor
  · have written := toList_join_lines ("start: " ++ checker.grammar.start)
      (checker.grammar.additions.map Addition.line)
    rw [← lines_eq] at written
    rcases exists_statements_of_lines wellFormed spelled written
      (.mk (.some (separator_lineFeed [])) .none .none)
      (stops_of_not_isIdentifierContinue (of_isLineEnd (by decide)).2.2.2 []) with
      ⟨again, readable, made⟩
    exact ofDefinition_eq_ok_of_statements readable made
  · have written := toList_intercalate_lines ("start: " ++ checker.grammar.start)
      (checker.grammar.additions.map Addition.line)
    rw [← lines_eq, ← List.append_nil (continued _)] at written
    rcases exists_statements_of_lines wellFormed spelled written (.mk .none .none .none)
      (by simp) with ⟨again, readable, made⟩
    exact ofDefinition_eq_ok_of_statements readable made

/-- Signs, capitals and odd blanks in a terminal, rules given twice, a nonterminal with the name of
the keyword, and no declaration of the start symbol. -/
def scattered : String :=
  "start -> start Ärger | x # two kinds\nÄrger -> \"Bli\u2003WAYAN  # ; | -> .\"; " ++
    "x -> Ärger | x\r\nstart -> x | start Ärger\nx -> \"ΣΑΣ\" | \" σας \""

/-- The same rules as they are printed. -/
def tidied : String :=
  "start: start\nstart -> start Ärger\nstart -> x\nx -> Ärger\nx -> x\nx -> \"σας\"\n" ++
    "Ärger -> \"bli wayan # ; | -> .\"\n"

theorem printed_grammar_loads_again_of_scattered :
    ∃ checker, ofDefinition scattered = .ok checker ∧ print checker.grammar = tidied ∧
      ofDefinition tidied = .ok checker := by
  have printed : (ofDefinition scattered).toOption.map (fun checker => print checker.grammar) =
      some tidied := by
    decide +kernel
  cases loaded : ofDefinition scattered with
  | error error =>
    rw [loaded] at printed
    contradiction
  | ok checker =>
    rw [loaded] at printed
    have printed : print checker.grammar = tidied := Option.some.inj printed
    have again := (printed_grammar_loads_again scattered checker loaded).1
    rw [printed] at again
    exact ⟨checker, rfl, printed, again⟩

end Cyk.Checker
