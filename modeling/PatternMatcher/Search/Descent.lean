import PatternMatcher.Search.Machine

/-!
# Searching by recursion, with a history

The recursion that does its own bookkeeping.  An operator is attempted until it fails
or has its maximum, and records the repetitions it then has.  It keeps fewer of them
each time the rest of the pattern fails behind them, and none when it fails itself.
There is nothing to be resumed: what the machine finds in its frames is held by the
calls that have not returned.
-/

namespace PatternMatcher

namespace Operator

theorem attempt_eq_some_iff {operator : Operator} {subject : Array Char} {offset : Nat}
    {span : Span} :
    operator.attempt subject offset = some span ↔
      operator.acceptsAt subject offset = true ∧ span = .single offset := by
  rw [attempt]
  split
  · next accepted => simp [accepted, eq_comm]
  · next refused => simp [refused]

/-- The repetitions an operator adds to those it has `taken` already: one attempt
behind the other, for as long as it may take more and accepts. -/
def attempts (operator : Operator) (subject : Array Char) (offset taken : Nat) : List Span :=
  if operator.max?.all (taken < ·) then
    match _attempted : operator.attempt subject offset with
    | none => []
    | some span => span :: attempts operator subject (offset + span.length) (taken + 1)
  else []
termination_by subject.size - offset
decreasing_by
  obtain ⟨accepted, rfl⟩ := attempt_eq_some_iff.mp _attempted
  have inside := lt_size_of_acceptsAt accepted
  rw [Span.length_single]
  omega

end Operator

namespace Search

end Search

end PatternMatcher
