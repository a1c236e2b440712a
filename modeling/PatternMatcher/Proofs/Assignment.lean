import Mathlib
import PatternMatcher.Pattern.Assignment

/-!
# Assignments by index and within a part of the subject

`Assigns` builds an assignment operator by operator.  `assigns_iff` reads it off
its counts instead, each operator named by its index.  `assigns_extract_iff`
moves an assignment into the part of the subject that it covers.
-/

namespace PatternMatcher

/-- The counts are a valid assignment of the operators from an offset on: each
operator may take its number of the characters behind those of the operators
before it. -/
structure Pattern.Assignment (pattern : Pattern) (subject : Array Char)
    (start : Nat) (counts : List Nat) : Prop where
  length_eq : counts.length = pattern.operators.length
  takes : ∀ (index : Nat) (_ : index < pattern.operators.length)
    (_ : index < counts.length),
    pattern.operators[index].Takes subject (start + (counts.take index).sum) counts[index]

variable {subject : Array Char} {operator : Operator} {operators later : List Operator}
  {start stop : Nat} {counts : List Nat}

/-- An operator for one repetition takes the character at its offset. -/
theorem Operator.takes_once_iff {atom : Atom} {offset count : Nat} :
    Takes ⟨atom, .once⟩ subject offset count ↔
      count = 1 ∧ acceptsAt ⟨atom, .once⟩ subject offset = true := by
  constructor
  · intro taken
    have one : count = 1 := le_antisymm (taken.le_max 1 rfl) taken.min_le
    exact ⟨one, taken.accepted offset (Nat.le_refl _) (by omega)⟩
  · intro accepted
    obtain ⟨rfl, accepted⟩ := accepted
    refine ⟨Nat.le_refl _, ?_, ?_⟩
    · intro max bound
      cases bound
      exact Nat.le_refl _
    · intro position after before
      obtain rfl : position = offset := by omega
      exact accepted

namespace Assigns

theorem nil_iff :
    Assigns subject [] start counts stop ↔ counts = [] ∧ stop = start := by
  constructor
  · intro assigned
    cases assigned
    exact ⟨rfl, rfl⟩
  · intro empty
    obtain ⟨rfl, rfl⟩ := empty
    exact .nil _

theorem cons_iff :
    Assigns subject (operator :: later) start counts stop ↔
      ∃ count rest, counts = count :: rest ∧ operator.Takes subject start count ∧
        Assigns subject later (start + count) rest stop := by
  constructor
  · intro assigned
    cases assigned with
    | cons taken rest => exact ⟨_, _, rfl, taken, rest⟩
  · intro parts
    obtain ⟨count, rest, rfl, taken, assigned⟩ := parts
    exact .cons taken assigned

theorem stop_eq (assigned : Assigns subject operators start counts stop) :
    stop = start + counts.sum := by
  induction assigned with
  | nil offset => rfl
  | cons _ _ ih => rw [ih, List.sum_cons, Nat.add_assoc]

theorem start_le (assigned : Assigns subject operators start counts stop) :
    start ≤ stop := by
  rw [assigned.stop_eq]
  exact Nat.le_add_right _ _

theorem takes_getElem (assigned : Assigns subject operators start counts stop)
    (index : Nat) (inOperators : index < operators.length) (inCounts : index < counts.length) :
    operators[index].Takes subject (start + (counts.take index).sum) counts[index] := by
  induction assigned generalizing index with
  | nil offset => cases inOperators
  | @cons operator operators offset count stop counts taken assigned ih =>
      cases index with
      | zero => exact taken
      | succ index =>
          have rest := ih index (Nat.lt_of_succ_lt_succ inOperators)
            (Nat.lt_of_succ_lt_succ inCounts)
          rw [Nat.add_assoc] at rest
          exact rest

theorem of_getElem (sameLength : counts.length = operators.length)
    (takes : ∀ (index : Nat) (_ : index < operators.length) (_ : index < counts.length),
      operators[index].Takes subject (start + (counts.take index).sum) counts[index]) :
    Assigns subject operators start counts (start + counts.sum) := by
  induction operators generalizing start counts with
  | nil =>
      have empty : counts = [] := List.length_eq_zero_iff.mp sameLength
      subst empty
      exact .nil _
  | cons operator later ih =>
      cases counts with
      | nil => cases sameLength
      | cons count rest =>
          have first : operator.Takes subject start count :=
            takes 0 (Nat.zero_lt_succ _) (Nat.zero_lt_succ _)
          rw [List.sum_cons, ← Nat.add_assoc]
          refine .cons first (ih (Nat.succ.inj sameLength) ?_)
          intro index inLater inRest
          have taken := takes (index + 1) (Nat.succ_lt_succ inLater)
            (Nat.succ_lt_succ inRest)
          rw [List.take_succ_cons, List.sum_cons, ← Nat.add_assoc] at taken
          exact taken

end Assigns

theorem assigns_iff {pattern : Pattern} :
    Assigns subject pattern.operators start counts stop ↔
      pattern.Assignment subject start counts ∧ stop = start + counts.sum := by
  constructor
  · intro assigned
    exact ⟨⟨assigned.length_eq, assigned.takes_getElem⟩, assigned.stop_eq⟩
  · intro indexed
    obtain ⟨assignment, rfl⟩ := indexed
    exact .of_getElem assignment.length_eq assignment.takes

section Extract

variable {low high : Nat}

theorem acceptsAt_extract_iff {offset : Nat} :
    operator.acceptsAt (subject.extract low high) offset = true ↔
      low + offset < high ∧ operator.acceptsAt subject (low + offset) = true := by
  have inside : offset < min high subject.size - low ↔
      low + offset < high ∧ low + offset < subject.size := by omega
  rw [Operator.acceptsAt, Operator.acceptsAt, Array.getElem?_extract]
  by_cases within : offset < min high subject.size - low
  · have bounds := inside.mp within
    simp [within, bounds.1]
  · simp only [within, if_false, Option.any_none, Bool.false_eq_true, false_iff]
    intro reached
    obtain ⟨below, accepted⟩ := reached
    exact within (inside.mpr ⟨below, Operator.lt_size_of_acceptsAt accepted⟩)

theorem takes_extract_iff {offset count : Nat} (within : low + offset + count ≤ high) :
    operator.Takes (subject.extract low high) offset count ↔
      operator.Takes subject (low + offset) count := by
  constructor
  · intro taken
    refine ⟨taken.min_le, taken.le_max, ?_⟩
    intro position after before
    have accepted := taken.accepted (position - low) (by omega) (by omega)
    rw [acceptsAt_extract_iff] at accepted
    rw [show position = low + (position - low) by omega]
    exact accepted.2
  · intro taken
    refine ⟨taken.min_le, taken.le_max, ?_⟩
    intro position after before
    rw [acceptsAt_extract_iff]
    exact ⟨by omega, taken.accepted _ (by omega) (by omega)⟩

theorem assigns_extract_iff {offset : Nat} (within : low + stop ≤ high) :
    Assigns (subject.extract low high) operators offset counts stop ↔
      Assigns subject operators (low + offset) counts (low + stop) := by
  induction operators generalizing offset counts with
  | nil =>
      rw [Assigns.nil_iff, Assigns.nil_iff]
      exact and_congr_right fun _ => (Nat.add_left_cancel_iff).symm
  | cons operator later ih =>
      rw [Assigns.cons_iff, Assigns.cons_iff]
      constructor
      · intro parts
        obtain ⟨count, rest, rfl, taken, assigned⟩ := parts
        have reach := assigned.start_le
        refine ⟨count, rest, rfl, (takes_extract_iff (by omega)).mp taken, ?_⟩
        rw [Nat.add_assoc]
        exact ih.mp assigned
      · intro parts
        obtain ⟨count, rest, rfl, taken, assigned⟩ := parts
        have reach := assigned.start_le
        refine ⟨count, rest, rfl, (takes_extract_iff (by omega)).mpr taken, ?_⟩
        rw [Nat.add_assoc] at assigned
        exact ih.mpr assigned

end Extract

end PatternMatcher
