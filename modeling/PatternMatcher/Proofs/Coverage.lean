import Mathlib
import PatternMatcher.Proofs.Unlimited

/-!
# Full matches decide coverage

A pattern covers a subject if its operators can share out the whole of it by a
valid assignment.  However the question is put, matching without a limit says
whether the pattern covers the subject: no choice of counts is missed.
-/

namespace PatternMatcher

namespace Pattern

/-- Some valid assignment from the beginning adds up to the whole subject. -/
def Covers (pattern : Pattern) (subject : String) : Prop :=
  ∃ counts, pattern.Assignment (chars subject) 0 counts ∧ counts.sum = subject.length

theorem completable_iff_covers {pattern : Pattern} {subject : String} :
    Completable (chars subject) (· = subject.length) pattern.operators 0 ↔
      pattern.Covers subject := by
  constructor
  · intro completable
    obtain ⟨counts, stop, assigned, ending⟩ := completable
    obtain ⟨assignment, total⟩ := assigns_iff.mp assigned
    rw [Nat.zero_add] at total
    exact ⟨counts, assignment, total.symm.trans ending⟩
  · intro covered
    obtain ⟨counts, assignment, total⟩ := covered
    have assigned := assigns_iff.mpr ⟨assignment, rfl⟩
    exact ⟨counts, _, assigned, (Nat.zero_add _).trans total⟩

theorem fullMatch?_of_ok {pattern : Pattern} {subject : String} {answer : Option Match}
    (answered : pattern.unlimited.fullMatch subject = .ok answer) :
    pattern.fullMatch? subject = answer := by
  rw [fullMatch?, answered]

theorem fullMatch?_eq_some_iff {pattern : Pattern} {subject : String} {found : Match} :
    pattern.fullMatch? subject = some found ↔
      ∃ counts, Greediest (chars subject) (· = subject.length) pattern.operators 0 counts
        subject.length ∧ found = .ofCounts 0 counts := by
  rcases pattern.fullMatch_unlimited subject with
    ⟨counts, greediest, answered⟩ | ⟨stuck, answered⟩
  · rw [fullMatch?_of_ok answered]
    constructor
    · intro same
      exact ⟨counts, greediest, (Option.some.inj same).symm⟩
    · intro greatest
      obtain ⟨others, otherGreediest, rfl⟩ := greatest
      have below := greediest.counts_le otherGreediest.assigns rfl
      have above := otherGreediest.counts_le greediest.assigns rfl
      rw [le_antisymm above below]
  · rw [fullMatch?_of_ok answered]
    constructor
    · intro same
      cases same
    · intro greatest
      obtain ⟨counts, greediest, -⟩ := greatest
      exact absurd greediest.completable stuck

theorem fullMatch?_eq_none_iff {pattern : Pattern} {subject : String} :
    pattern.fullMatch? subject = none ↔
      ¬Completable (chars subject) (· = subject.length) pattern.operators 0 := by
  rcases pattern.fullMatch_unlimited subject with
    ⟨counts, greediest, answered⟩ | ⟨stuck, answered⟩
  · rw [fullMatch?_of_ok answered]
    exact iff_of_false nofun (not_not.mpr greediest.completable)
  · rw [fullMatch?_of_ok answered]
    exact iff_of_true rfl stuck

theorem isMatch_iff_covers {pattern : Pattern} {subject : String} :
    pattern.isMatch subject = true ↔ pattern.Covers subject := by
  rw [← completable_iff_covers, isMatch]
  rcases pattern.fullMatch_unlimited subject with
    ⟨counts, greediest, answered⟩ | ⟨stuck, answered⟩
  · rw [fullMatch?_of_ok answered]
    exact iff_of_true rfl greediest.completable
  · rw [fullMatch?_of_ok answered]
    exact iff_of_false Bool.false_ne_true stuck

theorem isMatch_iff_assigns {pattern : Pattern} {subject : String} :
    pattern.isMatch subject = true ↔
      ∃ counts, Assigns (chars subject) pattern.operators 0 counts subject.length := by
  rw [isMatch_iff_covers, ← completable_iff_covers]
  constructor
  · intro completable
    obtain ⟨counts, stop, assigned, rfl⟩ := completable
    exact ⟨counts, assigned⟩
  · intro assignable
    obtain ⟨counts, assigned⟩ := assignable
    exact ⟨counts, _, assigned, rfl⟩

/-- Every way to ask for a full match without a limit tells whether there is a
valid assignment to the whole subject. -/
theorem fullMatch_decides_covers (pattern : Pattern) (subject : String) :
    ((∃ found, pattern.unlimited.fullMatch subject = .ok (some found)) ↔
      pattern.Covers subject) ∧
    ((∃ found, pattern.fullMatch? subject = some found) ↔ pattern.Covers subject) ∧
    (pattern.isMatch subject = true ↔ pattern.Covers subject) ∧
    (pattern.unlimited.isMatch subject = .ok true ↔ pattern.Covers subject) ∧
    (pattern.unlimited.fullMatch subject = .ok none ↔ ¬pattern.Covers subject) := by
  have decided : pattern.isMatch subject = true ↔ pattern.Covers subject := isMatch_iff_covers
  rw [← decided]
  rcases pattern.fullMatch_unlimited subject with
    ⟨counts, greediest, answered⟩ | ⟨stuck, answered⟩
  · have answered' := fullMatch?_of_ok answered
    rw [isMatch, Matcher.isMatch, answered', answered]
    refine ⟨?_, ?_, Iff.rfl, ?_, ?_⟩
    · exact iff_of_true ⟨_, rfl⟩ rfl
    · exact iff_of_true ⟨_, rfl⟩ rfl
    · exact iff_of_true rfl rfl
    · exact iff_of_false (by simp) (by simp)
  · have answered' := fullMatch?_of_ok answered
    rw [isMatch, Matcher.isMatch, answered', answered]
    refine ⟨?_, ?_, Iff.rfl, ?_, ?_⟩
    · exact iff_of_false (by simp) (by simp)
    · exact iff_of_false (by simp) (by simp)
    · exact iff_of_false (by simp [Except.map]) (by simp)
    · exact iff_of_true rfl (by simp)

end Pattern

end PatternMatcher
