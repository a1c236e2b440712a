import PatternMatcher.History
import PatternMatcher.Pattern.Basic

/-!
# Progress of a search

What a search keeps from one attempt to the next: the steps it has spent, the
repetitions it has recorded, and the events an observer is told of.
-/

namespace PatternMatcher

/-- Why a search ends without a verdict. -/
inductive SearchError where
  | stepLimitExceeded (limit : Nat)
  /-- The recorded repetitions do not fit the choices to be undone. -/
  | inconsistent (cause : HistoryError)
  deriving DecidableEq, Repr

def SearchError.message : SearchError → String
  | stepLimitExceeded limit => s!"backtracking step limit of {limit} exceeded"
  | inconsistent cause => s!"internal matcher error: {cause.message}"

inductive SearchEvent where
  /-- The operator found fewer repetitions than it needs. -/
  | tooFew (index : Nat) (operator : Operator) (count offset : Nat)
  /-- The operator gave back a repetition and has `count` left. -/
  | gaveBack (index count : Nat)
  /-- The whole pattern matched. -/
  | matched (start stop : Nat)
  deriving DecidableEq

/-- What has been spent and recorded so far. -/
structure Progress where
  steps : Nat
  history : History
  events : Array SearchEvent
  deriving DecidableEq

namespace Progress

def initial (pattern : Pattern) : Progress :=
  { steps := 0, history := .ofSize pattern.size, events := #[] }

def tick (progress : Progress) : Progress :=
  { progress with steps := progress.steps + 1 }

def note (progress : Progress) (event : SearchEvent) : Progress :=
  { progress with events := progress.events.push event }

def recordRun (progress : Progress) (index offset count : Nat) : Progress :=
  { progress with history := progress.history.recordRun index offset count }

def clear (progress : Progress) (index : Nat) : Progress :=
  { progress with history := progress.history.truncate index 0 }

def reset (progress : Progress) : Progress :=
  { progress with history := progress.history.reset }

end Progress

end PatternMatcher
