import PatternMatcher.Span

/-!
# Matches

A match says which part of the subject a pattern took and how its operators
share that part: one list of spans per operator, a span per repetition.
-/

namespace PatternMatcher

structure Match where
  /-- The whole part of the subject that matched. -/
  span : Span
  /-- The spans of the repetitions of each operator, in the order of the pattern. -/
  repetitions : List (List Span)
  deriving DecidableEq, Repr

namespace Match

def repetitions? (found : Match) (operator : Nat) : Option (List Span) :=
  found.repetitions[operator]?

/-- The offset behind the last of some repetitions that began at `start`. -/
def stopOf (start : Nat) (spans : List Span) : Nat :=
  match spans.getLast?.bind Span.offsets? with
  | some (_, stop) => stop
  | none => start

/-- The span of each operator, when the first one begins at `start` and each
other one where its predecessor ended. -/
def tile (start : Nat) : List (List Span) → List Span
  | [] => []
  | spans :: later => .between start (stopOf start spans) :: tile (stopOf start spans) later

/-- The part of the subject each operator took.  An operator without
repetitions has an empty span at the place where it would have begun. -/
def consumed (found : Match) : List Span :=
  match found.span.offsets? with
  | none => []
  | some (start, _) => tile start found.repetitions

end Match

end PatternMatcher
