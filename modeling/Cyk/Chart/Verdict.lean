import Cyk.Chart

/-!
# Verdicts

What a chart says about its sentence: whether the start symbol derives all of it, and which tokens
no rule knows.
-/

namespace Cyk

/-- The answer for one sentence. -/
structure Verdict where
  accepted : Bool
  tokenCount : Nat
deriving DecidableEq, Repr

/-- The verdict in words. -/
def Verdict.text (verdict : Verdict) : String :=
  (if verdict.accepted then "accepted" else "rejected") ++
    " (" ++ toString verdict.tokenCount ++ " tokens)"

namespace Chart

/-- Whether the start symbol is in the cell of the whole sentence.  An empty sentence has no such
cell. -/
def accepted (chart : Chart) : Bool :=
  decide (chart.grammar.start ∈ chart.symbols 1 chart.size)

/-- The verdict on the sentence. -/
def verdict (chart : Chart) : Verdict :=
  ⟨chart.accepted, chart.size⟩

/-- The tokens whose cells are empty, in order. -/
def unknownTokens (chart : Chart) : List Token :=
  (chart.tokens.zipIdx.filter fun (_, index) => (chart.symbols (index + 1) 1).isEmpty).map (·.1)

end Chart

end Cyk
