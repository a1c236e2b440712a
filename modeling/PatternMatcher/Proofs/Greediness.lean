import Mathlib
import PatternMatcher.Proofs.Unlimited

/-!
# Matches are greediest

No valid assignment that begins where a match begins, and ends where matches of
its kind may end, is ahead of the match at any operator.  So the counts of the
match are the lexicographically greatest ones.
-/

namespace PatternMatcher

/-- No operator of the match ends before the operator of the same index ends in
the assignment of some counts from an offset on. -/
def Match.KeepsAheadOf (found : Match) (start : Nat) (counts : List Nat) : Prop :=
  ∀ index, index < counts.length →
    ∃ span, found.consumed[index]? = some span ∧
      ((start + (counts.take (index + 1)).sum : Nat) : Int) ≤ span.stop

namespace Pattern

/-- The counts from an offset on that a match of a part of the subject may have. -/
def Candidates (pattern : Pattern) (subject : String) (start : Nat) : Set (List Nat) :=
  { counts | pattern.Assignment (chars subject) start counts }

/-- The counts that a match of the whole subject may have. -/
def FullCandidates (pattern : Pattern) (subject : String) : Set (List Nat) :=
  { counts | pattern.Assignment (chars subject) 0 counts ∧ counts.sum = subject.length }

end Pattern

section Greediest

variable {subject : Array Char} {mayEnd : Nat → Prop} {operators : List Operator}
  {start stop : Nat} {counts : List Nat}

theorem Greediest.keepsAheadOf {others : List Nat} {otherStop : Nat}
    (greediest : Greediest subject mayEnd operators start counts stop)
    (assigned : Assigns subject operators start others otherStop)
    (ending : mayEnd otherStop) :
    (Match.ofCounts start counts).KeepsAheadOf start others := by
  intro index inOthers
  have inCounts : index < counts.length := by
    rw [greediest.assigns.length_eq, ← assigned.length_eq]
    exact inOthers
  refine ⟨_, Match.getElem?_consumed_ofCounts inCounts, ?_⟩
  have behind := greediest.sum_take_le (Nat.le_refl _) assigned ending (index + 1)
  exact Int.ofNat_le.mpr behind

/-- Where every rival is an assignment that may end where it does, the greediest
assignment is the greatest rival and keeps ahead of the others. -/
theorem Greediest.dominates {rivals : Set (List Nat)}
    (greediest : Greediest subject mayEnd operators start counts stop)
    (own : counts ∈ rivals)
    (assigned : ∀ others ∈ rivals,
      ∃ otherStop, Assigns subject operators start others otherStop ∧ mayEnd otherStop) :
    IsGreatest rivals (Match.ofCounts start counts).counts ∧
      ∀ others ∈ rivals, (Match.ofCounts start counts).KeepsAheadOf start others := by
  rw [Match.counts_ofCounts]
  refine ⟨⟨own, ?_⟩, ?_⟩
  · intro others rival
    obtain ⟨otherStop, otherAssigned, ending⟩ := assigned others rival
    exact greediest.counts_le otherAssigned ending
  · intro others rival
    obtain ⟨otherStop, otherAssigned, ending⟩ := assigned others rival
    exact greediest.keepsAheadOf otherAssigned ending

end Greediest

/-- The match that a call without a limit gives keeps ahead of all assignments
it competes with, and has the greatest counts. -/
theorem Pattern.matches_greediest (pattern : Pattern) (subject : String) :
    (∀ found, pattern.unlimited.fullMatch subject = .ok (some found) →
      IsGreatest (pattern.FullCandidates subject) found.counts ∧
      ∀ counts ∈ pattern.FullCandidates subject, found.KeepsAheadOf 0 counts) ∧
    (∀ found, pattern.unlimited.find subject = .ok (some found) →
      ∃ start : Nat, found.span.start = start ∧
        IsGreatest (pattern.Candidates subject start) found.counts ∧
        ∀ counts ∈ pattern.Candidates subject start, found.KeepsAheadOf start counts) := by
  constructor
  · intro found answered
    rcases pattern.fullMatch_unlimited subject with
      ⟨counts, greediest, answered'⟩ | ⟨_, answered'⟩
    · rw [answered'] at answered
      cases answered
      apply greediest.dominates
      · obtain ⟨assignment, total⟩ := assigns_iff.mp greediest.assigns
        exact ⟨assignment, by rw [total, Nat.zero_add]⟩
      · intro others candidate
        obtain ⟨assignment, total⟩ := candidate
        exact ⟨_, assigns_iff.mpr ⟨assignment, rfl⟩, (Nat.zero_add _).trans total⟩
    · rw [answered'] at answered
      cases answered
  · intro found answered
    rcases pattern.find_unlimited subject with
      ⟨start, counts, stop, _, _, greediest, answered'⟩ | ⟨_, answered'⟩
    · rw [answered'] at answered
      cases answered
      refine ⟨start, rfl, ?_⟩
      apply greediest.dominates
      · exact (assigns_iff.mp greediest.assigns).1
      · intro others candidate
        exact ⟨_, assigns_iff.mpr ⟨candidate, rfl⟩, trivial⟩
    · rw [answered'] at answered
      cases answered

end PatternMatcher
