import Cyk.Index

/-!
# Phrases

The terminals of more than one word, in the order in which a sentence is searched for them.
-/

namespace Cyk.Phrases

/-- The number of spaces in a terminal: one less than its words. -/
def spaces (terminal : String) : Nat :=
  terminal.toList.count ' '

/-- More words go before fewer, then more characters before fewer, and then the order of code
points decides. -/
def comesBefore (terminal other : String) : Bool :=
  if spaces terminal ≠ spaces other then spaces other < spaces terminal
  else if terminal.length ≠ other.length then other.length < terminal.length
  else !decide (other < terminal)

/-- The terminals of more than one word, longest first. -/
def longestFirst (terminals : List String) : List String :=
  (terminals.filter (·.toList.contains ' ')).mergeSort comesBefore

end Cyk.Phrases
