import Mathlib
import PatternMatcher.Proofs.Answers
import PatternMatcher.Proofs.Greediest

/-!
# What calls answer

An answer is the match of the greediest assignment at the first offset that has
an assignment, nothing where no offset has one, or the excess of the step limit.
Without a limit the third case is gone.
-/

namespace PatternMatcher

namespace Search

/-- What may be answered for a stretch of offsets. -/
inductive Settles (search : Search) (pattern : Pattern) (first beyond : Nat) :
    Except SearchError (Option Match) → Prop where
  | found {start stop : Nat} {counts : List Nat} :
      first ≤ start → start < beyond →
      (∀ earlier, first ≤ earlier → earlier < start →
        ¬Completable search.subject (search.mayEndAt · = true) pattern.operators earlier) →
      Greediest search.subject (search.mayEndAt · = true) pattern.operators start counts stop →
      search.Settles pattern first beyond (.ok (some (.ofCounts start counts)))
  | missing :
      (∀ start, first ≤ start → start < beyond →
        ¬Completable search.subject (search.mayEndAt · = true) pattern.operators start) →
      search.Settles pattern first beyond (.ok none)
  | exceeded {limit : Nat} :
      search.stepLimit = some limit →
      search.Settles pattern first beyond (.error (.stepLimitExceeded limit))

variable {search : Search} {pattern : Pattern} {first beyond : Nat}
  {result : Except SearchError (Option Match)}

theorem Settles.skip (settled : search.Settles pattern (first + 1) beyond result)
    (stuck : ¬Completable search.subject (search.mayEndAt · = true) pattern.operators first) :
    search.Settles pattern first beyond result := by
  have skipped : ∀ {bound : Nat},
      (∀ earlier, first + 1 ≤ earlier → earlier < bound →
        ¬Completable search.subject (search.mayEndAt · = true) pattern.operators earlier) →
      ∀ earlier, first ≤ earlier → earlier < bound →
        ¬Completable search.subject (search.mayEndAt · = true) pattern.operators earlier := by
    intro bound stuckLater earlier after before
    rcases Nat.eq_or_lt_of_le after with same | later
    · exact same ▸ stuck
    · exact stuckLater earlier later before
  cases settled with
  | found after before leftmost greediest =>
      exact .found (Nat.le_of_succ_le after) before (skipped leftmost) greediest
  | missing stuckLater => exact .missing (skipped stuckLater)
  | exceeded limited => exact .exceeded limited

theorem settles_answer (search : Search) (pattern : Pattern) (start : Nat)
    (account : Account) :
    search.Settles pattern start (start + 1) (search.answer pattern start account).1 := by
  rw [answer_fst]
  have decided := search.decides_tryFrom pattern.operators 0 start account
  generalize (search.tryFrom pattern.operators 0 start account).1 = choice at decided ⊢
  cases decided with
  | found greediest =>
      refine .found (Nat.le_refl _) (Nat.lt_succ_self _) ?_ greediest
      intro earlier after before
      exact absurd before (Nat.not_lt_of_le after)
  | missing stuck =>
      refine .missing ?_
      intro other after before
      have same : other = start := by omega
      exact same ▸ stuck
  | exceeded limited => exact .exceeded limited

theorem settles_answerEach (search : Search) (pattern : Pattern) (first count : Nat)
    (account : Account) :
    search.Settles pattern first (first + count)
      (search.answerEach pattern (List.range' first count) account).1 := by
  induction count generalizing first account with
  | zero =>
      refine .missing ?_
      intro start after before
      exact absurd before (Nat.not_lt_of_le after)
  | succ count ih =>
      have settled := search.settles_answer pattern first account
      rw [List.range'_succ, answerEach]
      generalize search.answer pattern first account = decided at settled ⊢
      obtain ⟨result, account⟩ := decided
      cases settled with
      | @found start stop counts after before leftmost greediest =>
          exact .found after (by omega) leftmost greediest
      | missing stuck =>
          have rest := ih (first + 1) account
          rw [Nat.add_right_comm, Nat.add_assoc] at rest
          exact rest.skip (stuck first (Nat.le_refl _) (Nat.lt_succ_self _))
      | exceeded limited => exact .exceeded limited

end Search

namespace Matcher

theorem settles_fullMatch (matcher : Matcher) (subject : String) :
    (matcher.search true (chars subject)).Settles matcher.pattern 0 1
      (matcher.fullMatch subject) := by
  rw [fullMatch_eq]
  exact Search.settles_answer _ _ 0 _

theorem settles_find (matcher : Matcher) (subject : String) :
    (matcher.search false (chars subject)).Settles matcher.pattern 0 (subject.length + 1)
      (matcher.find subject) := by
  have settled := (matcher.search false (chars subject)).settles_answerEach matcher.pattern
    0 (subject.length + 1) .initial
  rw [Nat.zero_add] at settled
  rw [find_eq]
  exact settled

theorem mayEndAt_search_true {matcher : Matcher} {subject : Array Char} {offset : Nat} :
    (matcher.search true subject).mayEndAt offset = true ↔ offset = subject.size := by
  simp [search, Search.mayEndAt]

theorem mayEndAt_search_false {matcher : Matcher} {subject : Array Char} {offset : Nat} :
    (matcher.search false subject).mayEndAt offset = true ↔ True := by
  simp [search, Search.mayEndAt]

end Matcher

namespace Pattern

/-- A full match without a limit is the greediest assignment that ends at the
end of the subject. -/
theorem fullMatch_unlimited (pattern : Pattern) (subject : String) :
    (∃ counts, Greediest (chars subject) (· = subject.length) pattern.operators 0 counts
        subject.length ∧
      pattern.unlimited.fullMatch subject = .ok (some (.ofCounts 0 counts))) ∨
    (¬Completable (chars subject) (· = subject.length) pattern.operators 0 ∧
      pattern.unlimited.fullMatch subject = .ok none) := by
  have settled := pattern.unlimited.settles_fullMatch subject
  generalize pattern.unlimited.fullMatch subject = result at settled ⊢
  have ends : (fun offset => (pattern.unlimited.search true (chars subject)).mayEndAt offset
      = true) = (· = subject.length) := by
    funext offset
    rw [Matcher.mayEndAt_search_true, size_chars]
  cases settled with
  | @found start stop counts _ before _ greediest =>
      have atStart : start = 0 := Nat.lt_one_iff.mp before
      subst atStart
      rw [ends] at greediest
      have atEnd : stop = subject.length := greediest.mayEnd_stop
      subst atEnd
      exact .inl ⟨counts, greediest, rfl⟩
  | missing stuck =>
      rw [ends] at stuck
      exact .inr ⟨stuck 0 (Nat.le_refl _) Nat.zero_lt_one, rfl⟩
  | exceeded limited => cases limited

/-- A search without a limit finds the greediest assignment at the first offset
that has one. -/
theorem find_unlimited (pattern : Pattern) (subject : String) :
    (∃ start counts stop,
      start ≤ subject.length ∧
      (∀ earlier, earlier < start →
        ¬Completable (chars subject) (fun _ => True) pattern.operators earlier) ∧
      Greediest (chars subject) (fun _ => True) pattern.operators start counts stop ∧
      pattern.unlimited.find subject = .ok (some (.ofCounts start counts))) ∨
    ((∀ start, start ≤ subject.length →
        ¬Completable (chars subject) (fun _ => True) pattern.operators start) ∧
      pattern.unlimited.find subject = .ok none) := by
  have settled := pattern.unlimited.settles_find subject
  generalize pattern.unlimited.find subject = result at settled ⊢
  have ends : (fun offset => (pattern.unlimited.search false (chars subject)).mayEndAt offset
      = true) = fun _ => True := by
    funext offset
    rw [Matcher.mayEndAt_search_false]
  cases settled with
  | @found start stop counts _ before leftmost greediest =>
      rw [ends] at greediest leftmost
      exact .inl ⟨start, counts, stop, Nat.le_of_lt_succ before,
        fun earlier => leftmost earlier (Nat.zero_le _), greediest, rfl⟩
  | missing stuck =>
      rw [ends] at stuck
      exact .inr ⟨fun start within => stuck start (Nat.zero_le _) (Nat.lt_succ_of_le within),
        rfl⟩
  | exceeded limited => cases limited

theorem fullMatch_of_not_completable {pattern : Pattern} {subject : String}
    (stuck : ¬Completable (chars subject) (· = subject.length) pattern.operators 0) :
    pattern.unlimited.fullMatch subject = .ok none := by
  rcases pattern.fullMatch_unlimited subject with ⟨counts, greediest, -⟩ | ⟨-, answered⟩
  · exact absurd greediest.completable stuck
  · exact answered

theorem find_of_not_completable {pattern : Pattern} {subject : String}
    (stuck : ∀ start, ¬Completable (chars subject) (fun _ => True) pattern.operators start) :
    pattern.unlimited.find subject = .ok none := by
  rcases pattern.find_unlimited subject with
    ⟨start, counts, stop, -, -, greediest, -⟩ | ⟨-, answered⟩
  · exact absurd greediest.completable (stuck start)
  · exact answered

end Pattern

end PatternMatcher
