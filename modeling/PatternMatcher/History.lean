import PatternMatcher.Span

/-!
# Recorded repetitions

A history holds one stack per operator: the spans of the repetitions the
operator has accepted and not given back.  Operators are named by their index.
`Action` and `perform` put the operations under one roof, for use step by step.
-/

namespace PatternMatcher

/-- Stacks of spans, one per operator, each with its latest span first. -/
structure History where
  entries : Array (List Span)
  deriving DecidableEq, Inhabited

/-- Why an operation on a history has no result. -/
inductive HistoryError where
  | noSuchOperator (operator : Nat)
  | underflow (operator : Nat)
  deriving DecidableEq, Repr

def HistoryError.message : HistoryError → String
  | noSuchOperator operator => s!"there is no operator {operator}"
  | underflow operator => s!"no recorded match to undo for operator {operator}"

namespace History

def ofSize (operators : Nat) : History := ⟨Array.replicate operators []⟩

def size (history : History) : Nat := history.entries.size

/-- The stack of an operator, latest span first. -/
def stack (history : History) (operator : Nat) : List Span :=
  (history.entries[operator]?).getD []

def spans (history : History) (operator : Nat) : List Span :=
  (history.stack operator).reverse

def count (history : History) (operator : Nat) : Nat :=
  (history.stack operator).length

/-- The recorded spans of every operator, in the order of recording. -/
def toLists (history : History) : List (List Span) :=
  history.entries.toList.map List.reverse

def record (history : History) (operator : Nat) (span : Span) : History :=
  ⟨history.entries.modify operator (span :: ·)⟩

/-- Record `count` repetitions of an operator, one character each, from an
offset on. -/
def recordRun (history : History) (operator offset count : Nat) : History :=
  (List.range' offset count).foldl
    (fun history position => history.record operator (.single position)) history

def undo (history : History) (operator : Nat) : Except HistoryError (Span × History) :=
  match history.entries[operator]? with
  | none => .error (.noSuchOperator operator)
  | some [] => .error (.underflow operator)
  | some (latest :: _) => .ok (latest, ⟨history.entries.modify operator List.tail⟩)

def truncate (history : History) (operator count : Nat) : History :=
  ⟨history.entries.modify operator fun stack => stack.drop (stack.length - count)⟩

def reset (history : History) : History :=
  ⟨history.entries.map fun _ => []⟩

inductive Action where
  | record (operator : Nat) (span : Span)
  | undo (operator : Nat)
  | truncate (operator count : Nat)
  | reset
  | count (operator : Nat)
  | spans (operator : Nat)
  deriving DecidableEq, Repr

/-- What an operation answers. -/
inductive Reply where
  | done
  | removed (span : Span)
  | counted (count : Nat)
  | listed (spans : List Span)
  deriving DecidableEq, Repr

def Action.operator? : Action → Option Nat
  | .record operator _ | .undo operator | .truncate operator _
  | .count operator | .spans operator => some operator
  | .reset => none

/-- Carry out an operation on an operator that exists. -/
def performKnown (history : History) : Action → Except HistoryError (Reply × History)
  | .record operator span => .ok (.done, history.record operator span)
  | .undo operator =>
      (history.undo operator).map fun (span, rest) => (.removed span, rest)
  | .truncate operator count => .ok (.done, history.truncate operator count)
  | .reset => .ok (.done, history.reset)
  | .count operator => .ok (.counted (history.count operator), history)
  | .spans operator => .ok (.listed (history.spans operator), history)

def perform (history : History) (action : Action) : Except HistoryError (Reply × History) :=
  match action.operator? with
  | none => history.performKnown action
  | some operator =>
      if operator < history.size then history.performKnown action
      else .error (.noSuchOperator operator)

@[simp] theorem size_ofSize (operators : Nat) : (ofSize operators).size = operators := by
  simp [ofSize, size]

@[simp] theorem size_reset (history : History) : history.reset.size = history.size := by
  simp [reset, size]

end History

end PatternMatcher
