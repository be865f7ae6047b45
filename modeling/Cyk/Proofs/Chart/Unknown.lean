import Cyk.Proofs.Chart.Recognition

/-!
# Unknown tokens

Whatever derives a row of tokens has a lexical rule behind each of them.  So a token without lexical
rules empties every cell above it, and in a filled chart it is the only reason for an empty cell of
a single token.
-/

namespace Cyk

/-- The terminals of the lexical rules, once for each rule. -/
def Rules.terminals (rules : Rules) : List String :=
  rules.lexical.pairs.map (·.2)

theorem Rules.mem_terminals {rules : Rules} {terminal : String} :
    terminal ∈ rules.terminals ↔ ∃ symbol, terminal ∈ rules.lexical.get symbol := by
  simp [terminals, Index.mem_pairs]

theorem Derives.mem_terminals {rules : Rules} {symbol : String} {row : List String}
    (derivation : Derives rules symbol row) : ∀ terminal ∈ row, terminal ∈ rules.terminals := by
  induction derivation with
  | @lexical symbol terminal rule =>
    intro other member
    obtain rfl := List.mem_singleton.mp member
    exact Rules.mem_terminals.mpr ⟨symbol, rule⟩
  | unit _ _ below => exact below
  | binary _ _ _ before after =>
    intro terminal member
    rcases List.mem_append.mp member with inFront | inBack
    · exact before terminal inFront
    · exact after terminal inBack

theorem text_mem_spanTexts {tokens : List Token} {index start len : Nat} {token : Token}
    (here : tokens[index]? = some token) (after : start ≤ index + 1)
    (before : index + 1 < start + len) : token.text ∈ spanTexts tokens start len := by
  apply List.mem_of_getElem? (i := index - (start - 1))
  have inside : index - (start - 1) < len := by omega
  have place : start - 1 + (index - (start - 1)) = index := by omega
  rw [spanTexts, List.getElem?_take_of_lt inside, List.getElem?_drop, place, List.getElem?_map,
    here, Option.map_some]

namespace Chart

variable {grammar : Grammar} {tokens : List Token} {index : Nat} {token : Token}

/-- No span with an unknown token is derived by anything. -/
theorem symbols_eq_empty_of_unknown (here : tokens[index]? = some token)
    (unknown : token.text ∉ grammar.rules.terminals) {start len : Nat} (after : start ≤ index + 1)
    (before : index + 1 < start + len) : (ofTokens grammar tokens).symbols start len = ∅ := by
  ext symbol
  rw [ofTokens, mem_symbols_fill]
  constructor
  · rintro ⟨-, derivation⟩
    exact absurd (derivation.mem_terminals _ (text_mem_spanTexts here after before)) unknown
  · intro impossible
    exact absurd impossible (Names.not_mem_empty symbol)

/-- The cell of a single token is empty just when no lexical rule has its text. -/
theorem symbols_one_eq_empty_iff (here : tokens[index]? = some token) :
    (ofTokens grammar tokens).symbols (index + 1) 1 = ∅ ↔ token.text ∉ grammar.rules.terminals := by
  constructor
  · intro empty known
    rcases Rules.mem_terminals.mp known with ⟨symbol, rule⟩
    have inside : index < tokens.length := (List.getElem?_eq_some_iff.mp here).1
    have member : symbol ∈ (ofTokens grammar tokens).symbols (index + 1) 1 := by
      rw [ofTokens, mem_symbols_fill, spanTexts_one here]
      exact ⟨⟨by omega, by omega, by omega⟩, Derives.lexical rule⟩
    rw [empty] at member
    exact Names.not_mem_empty symbol member
  · intro unknown
    exact symbols_eq_empty_of_unknown here unknown (by omega) (by omega)

/-- The unknown tokens of a filled chart, in order: those whose text is in no lexical rule. -/
theorem unknownTokens_ofTokens (grammar : Grammar) (tokens : List Token) :
    (ofTokens grammar tokens).unknownTokens =
      tokens.filter fun token => token.text ∉ grammar.rules.terminals := by
  have same : (ofTokens grammar tokens).tokens = tokens := tokens_fill grammar tokens
  have agree : ∀ pair ∈ tokens.zipIdx,
      ((ofTokens grammar tokens).symbols (pair.2 + 1) 1).isEmpty =
        decide (pair.1.text ∉ grammar.rules.terminals) := by
    rintro ⟨token, index⟩ member
    have here : tokens[index]? = some token := List.mk_mem_zipIdx_iff_getElem?.mp member
    rw [Bool.eq_iff_iff, Names.isEmpty_iff, decide_eq_true_eq]
    exact symbols_one_eq_empty_iff here
  calc
    (ofTokens grammar tokens).unknownTokens
      = (tokens.zipIdx.filter fun pair =>
          decide (pair.1.text ∉ grammar.rules.terminals)).map (·.1) := by
        rw [unknownTokens, same, List.filter_congr agree]
    _ = (tokens.zipIdx.map (·.1)).filter fun token => token.text ∉ grammar.rules.terminals := by
        rw [List.filter_map]
        rfl
    _ = tokens.filter fun token => token.text ∉ grammar.rules.terminals := by
        rw [List.zipIdx_map_fst]

end Chart

end Cyk
