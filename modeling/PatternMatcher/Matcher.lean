import PatternMatcher.Match
import PatternMatcher.Search.Machine

/-!
# Matching

A matcher is a pattern with an optional limit on the steps a call may spend.
`fullMatch` wants the whole subject, `find` the leftmost part of it that
matches.  The same questions asked of a `Pattern` have no limit and therefore
always an answer.
-/

namespace PatternMatcher

abbrev Search.Outcome := Except SearchError (Option Match) × Progress

namespace Search

/-- Match a pattern at one offset, with every stack of the history empty at the
beginning. -/
def attempt (search : Search) (pattern : Pattern) (start : Nat) (progress : Progress) :
    Outcome :=
  match search.run (.start pattern start progress.reset) with
  | (.ok (some stop), progress) =>
      (.ok (some ⟨.between start stop, progress.history.toLists⟩),
        progress.note (.matched start stop))
  | (.ok none, progress) => (.ok none, progress)
  | (.error error, progress) => (.error error, progress)

def attemptEach (search : Search) (pattern : Pattern) : List Nat → Progress → Outcome
  | [], progress => (.ok none, progress)
  | start :: later, progress =>
      match search.attempt pattern start progress with
      | (.ok none, progress) => search.attemptEach pattern later progress
      | decided => decided

end Search

/-- What there is to tell about a call: its answer, the steps it spent, and the
events on the way. -/
structure Report where
  answer : Except SearchError (Option Match)
  steps : Nat
  events : Array SearchEvent

def Search.Outcome.report (outcome : Search.Outcome) : Report :=
  { answer := outcome.1, steps := outcome.2.steps, events := outcome.2.events }

/-- A pattern with a limit on the steps of each call. -/
structure Matcher where
  pattern : Pattern
  stepLimit : Option Nat := none
  deriving DecidableEq, Inhabited

namespace Matcher

def reportFullMatch (matcher : Matcher) (subject : Array Char) : Report :=
  let search : Search := { subject, anchored := true, stepLimit := matcher.stepLimit }
  (search.attempt matcher.pattern 0 (.initial matcher.pattern)).report

/-- Match a part of the subject that begins as far left as possible, and report.
The steps of all offsets count together. -/
def reportFind (matcher : Matcher) (subject : Array Char) : Report :=
  let search : Search := { subject, anchored := false, stepLimit := matcher.stepLimit }
  (search.attemptEach matcher.pattern (List.range (subject.size + 1))
    (.initial matcher.pattern)).report

def fullMatch (matcher : Matcher) (subject : String) : Except SearchError (Option Match) :=
  (matcher.reportFullMatch subject.toList.toArray).answer

def find (matcher : Matcher) (subject : String) : Except SearchError (Option Match) :=
  (matcher.reportFind subject.toList.toArray).answer

def isMatch (matcher : Matcher) (subject : String) : Except SearchError Bool :=
  (matcher.fullMatch subject).map Option.isSome

end Matcher

namespace Pattern

def unlimited (pattern : Pattern) : Matcher := { pattern }

def fullMatch? (pattern : Pattern) (subject : String) : Option Match :=
  match pattern.unlimited.fullMatch subject with
  | .ok answer => answer
  | .error _ => none

def find? (pattern : Pattern) (subject : String) : Option Match :=
  match pattern.unlimited.find subject with
  | .ok answer => answer
  | .error _ => none

def isMatch (pattern : Pattern) (subject : String) : Bool :=
  (pattern.fullMatch? subject).isSome

end Pattern

end PatternMatcher
