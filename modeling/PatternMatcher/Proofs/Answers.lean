import Mathlib
import PatternMatcher.Matcher
import PatternMatcher.Proofs.Simulation

/-!
# Answers by recursion

What a matcher answers and accounts for, without the histories and frames it
works with: `Search.answer` for an attempt at one offset, `Search.answerEach`
for one offset after another.  The reports of a matcher are these answers.
-/

namespace PatternMatcher

namespace Search

abbrev Answer := Except SearchError (Option Match) × Account

/-- The answer to an attempt at one offset, by recursion. -/
def answer (search : Search) (pattern : Pattern) (start : Nat) (account : Account) : Answer :=
  match search.tryFrom pattern.operators 0 start account with
  | (.ok (some counts), account) =>
      (.ok (some (.ofCounts start counts)), account.note (.matched start (start + counts.sum)))
  | (.ok none, account) => (.ok none, account)
  | (.error error, account) => (.error error, account)

def answerEach (search : Search) (pattern : Pattern) : List Nat → Account → Answer
  | [], account => (.ok none, account)
  | start :: later, account =>
      match search.answer pattern start account with
      | (.ok none, account) => search.answerEach pattern later account
      | decided => decided

theorem answer_fst (search : Search) (pattern : Pattern) (start : Nat) (account : Account) :
    (search.answer pattern start account).1 =
      (search.tryFrom pattern.operators 0 start account).1.map
        (Option.map (Match.ofCounts start)) := by
  rw [answer]
  generalize search.tryFrom pattern.operators 0 start account = choice
  obtain ⟨result, spent⟩ := choice
  cases result with
  | error error => rfl
  | ok counts => cases counts <;> rfl

theorem tryFrom_of_answer {search : Search} {pattern : Pattern} {start : Nat}
    {account : Account} {found : Match}
    (answered : (search.answer pattern start account).1 = .ok (some found)) :
    ∃ counts, (search.tryFrom pattern.operators 0 start account).1 = .ok (some counts) ∧
      found = .ofCounts start counts := by
  rw [answer_fst] at answered
  exact found_of_map_eq answered

theorem answerEach_of_found {search : Search} {pattern : Pattern} {start : Nat}
    {later : List Nat} {account : Account} {found : Match}
    (answered : (search.answer pattern start account).1 = .ok (some found)) :
    search.answerEach pattern (start :: later) account = search.answer pattern start account := by
  rw [answerEach]
  generalize search.answer pattern start account = decided at answered ⊢
  obtain ⟨result, spent⟩ := decided
  cases answered
  rfl

theorem attempt_eq_answer (search : Search) {pattern : Pattern} (start : Nat)
    {progress : Progress} (sized : progress.history.size = pattern.size) :
    ∃ after : Progress,
      search.attempt pattern start progress =
        ((search.answer pattern start progress.account).1, after) ∧
      after.account = (search.answer pattern start progress.account).2 ∧
      ((search.answer pattern start progress.account).1 = .ok none →
        after.history.size = pattern.size) := by
  have followed := follows_start search start sized
  rw [attempt, answer]
  generalize search.tryFrom pattern.operators 0 start progress.account = choice at followed ⊢
  generalize search.run _ = verdict at followed ⊢
  cases followed with
  | @matched counts account progress told complete =>
      rw [List.nil_append] at complete
      refine ⟨progress.note (.matched start (start + counts.sum)), ?_, ?_, ?_⟩
      · simp [Match.ofCounts, complete]
      · simp [← told, Progress.account, Progress.note, Account.note]
      · simp
  | @failed account progress told cleared =>
      refine ⟨progress, rfl, told, fun _ => ?_⟩
      rw [← History.length_toLists, cleared]
      simp [Pattern.size]
  | @stopped error account progress told =>
      exact ⟨progress, rfl, told, fun undecided => by cases undecided⟩

theorem attemptEach_eq_answerEach (search : Search) {pattern : Pattern}
    (starts : List Nat) {progress : Progress}
    (sized : progress.history.size = pattern.size) :
    ∃ after : Progress,
      search.attemptEach pattern starts progress =
        ((search.answerEach pattern starts progress.account).1, after) ∧
      after.account = (search.answerEach pattern starts progress.account).2 := by
  induction starts generalizing progress with
  | nil => exact ⟨progress, rfl, rfl⟩
  | cons start later ih =>
      obtain ⟨after, attempted, told, kept⟩ := search.attempt_eq_answer start sized
      rw [attemptEach, attempted, answerEach]
      generalize search.answer pattern start progress.account = decided at told kept ⊢
      obtain ⟨result, account⟩ := decided
      simp only at told kept ⊢
      subst told
      cases result with
      | error error => exact ⟨after, rfl, rfl⟩
      | ok found =>
          cases found with
          | none => exact ih (kept rfl)
          | some found => exact ⟨after, rfl, rfl⟩

def Answer.report (answer : Answer) : Report :=
  { answer := answer.1, steps := answer.2.steps, events := answer.2.events }

end Search

abbrev chars (subject : String) : Array Char := subject.toList.toArray

theorem size_chars (subject : String) : (chars subject).size = subject.length := by
  rw [List.size_toArray, String.length_toList]

def Account.initial : Account := { steps := 0, events := #[] }

theorem account_initial (pattern : Pattern) :
    (Progress.initial pattern).account = .initial := rfl

namespace Matcher

/-- The search for the whole subject, or for a part of it. -/
def search (matcher : Matcher) (anchored : Bool) (subject : Array Char) : Search :=
  { subject, anchored, stepLimit := matcher.stepLimit }

theorem reportFullMatch_eq (matcher : Matcher) (subject : Array Char) :
    matcher.reportFullMatch subject =
      ((matcher.search true subject).answer matcher.pattern 0 .initial).report := by
  have sized : (Progress.initial matcher.pattern).history.size = matcher.pattern.size :=
    History.size_ofSize _
  obtain ⟨after, attempted, told, _⟩ := (matcher.search true subject).attempt_eq_answer 0 sized
  rw [account_initial] at attempted told
  rw [reportFullMatch]
  change Search.Outcome.report ((matcher.search true subject).attempt _ _ _) = _
  rw [attempted, Search.Answer.report, ← told]
  rfl

theorem reportFind_eq (matcher : Matcher) (subject : Array Char) :
    matcher.reportFind subject =
      ((matcher.search false subject).answerEach matcher.pattern
        (List.range (subject.size + 1)) .initial).report := by
  have sized : (Progress.initial matcher.pattern).history.size = matcher.pattern.size :=
    History.size_ofSize _
  obtain ⟨after, attempted, told⟩ := (matcher.search false subject).attemptEach_eq_answerEach
    (List.range (subject.size + 1)) sized
  rw [account_initial] at attempted told
  rw [reportFind]
  change Search.Outcome.report ((matcher.search false subject).attemptEach _ _ _) = _
  rw [attempted, Search.Answer.report, ← told]
  rfl

theorem fullMatch_eq (matcher : Matcher) (subject : String) :
    matcher.fullMatch subject =
      ((matcher.search true (chars subject)).answer matcher.pattern 0 .initial).1 := by
  rw [fullMatch, reportFullMatch_eq]
  rfl

theorem find_eq (matcher : Matcher) (subject : String) :
    matcher.find subject =
      ((matcher.search false (chars subject)).answerEach matcher.pattern
        (List.range' 0 (subject.length + 1)) .initial).1 := by
  rw [find, reportFind_eq, size_chars, List.range_eq_range']
  rfl

end Matcher

end PatternMatcher
