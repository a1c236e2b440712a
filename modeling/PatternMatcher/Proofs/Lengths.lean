import Mathlib
import PatternMatcher.Proofs.Leftmost

/-!
# Lengths of matches

What the operators may take is bounded by their minimums and maximums, and so is the length of
every match.  A pattern whose minimums are all zero has the assignment that takes nothing, from
every offset on; a search then ends at its first offset, however much it takes there.  No
other pattern matches the empty text.
-/

namespace PatternMatcher

namespace Pattern

/-- The number of characters that the operators need. -/
def minLength (pattern : Pattern) : Nat := (pattern.operators.map Operator.min).sum

/-- The number of characters that the operators may take, if each of them is bounded. -/
def maxLength? (pattern : Pattern) : Option Nat :=
  (pattern.operators.mapM Operator.max?).map List.sum

theorem acceptsEmpty_iff {pattern : Pattern} :
    pattern.acceptsEmpty = true ↔ ∀ operator ∈ pattern.operators, operator.min = 0 := by
  simp [acceptsEmpty]

theorem minLength_eq_zero_iff {pattern : Pattern} :
    pattern.minLength = 0 ↔ pattern.acceptsEmpty = true := by
  rw [acceptsEmpty_iff, minLength, List.sum_eq_zero_iff, List.forall_mem_map]

end Pattern

namespace Assigns

variable {subject : Array Char} {operators : List Operator} {start stop : Nat}
  {counts : List Nat}

theorem sum_min_le (assigned : Assigns subject operators start counts stop) :
    (operators.map Operator.min).sum ≤ counts.sum := by
  induction assigned with
  | nil offset => exact Nat.le_refl 0
  | cons taken _ ih =>
      rw [List.map_cons, List.sum_cons, List.sum_cons]
      exact Nat.add_le_add taken.min_le ih

theorem sum_le_max (assigned : Assigns subject operators start counts stop) {maxes : List Nat}
    (bounded : operators.mapM Operator.max? = some maxes) : counts.sum ≤ maxes.sum := by
  induction assigned generalizing maxes with
  | nil offset => exact Nat.zero_le _
  | cons taken _ ih =>
      rw [List.mapM_cons] at bounded
      obtain ⟨max, first, rest⟩ := Option.bind_eq_some_iff.mp bounded
      obtain ⟨others, later, same⟩ := Option.bind_eq_some_iff.mp rest
      cases same
      rw [List.sum_cons, List.sum_cons]
      exact Nat.add_le_add (taken.le_max max first) (ih later)

/-- Operators without minimums may all take nothing. -/
theorem nothing (free : ∀ operator ∈ operators, operator.min = 0) (offset : Nat) :
    Assigns subject operators offset (List.replicate operators.length 0) offset := by
  induction operators with
  | nil => exact .nil offset
  | cons operator later ih =>
      obtain ⟨first, others⟩ := List.forall_mem_cons.mp free
      refine .cons ⟨Nat.le_of_eq first, fun _ _ => Nat.zero_le _, ?_⟩ (ih others)
      intro position after before
      exact absurd before (Nat.not_lt_of_le after)

end Assigns

theorem Match.length_span_ofCounts (start : Nat) (counts : List Nat) :
    (Match.ofCounts start counts).span.length = counts.sum := by
  rw [Match.ofCounts, Span.length_between, Nat.add_sub_cancel_left]

namespace Pattern

variable {pattern : Pattern} {subject : String} {found : Match}

theorem exists_assigns_of_found
    (answered : pattern.fullMatch? subject = some found ∨ pattern.find? subject = some found) :
    ∃ start counts stop, Assigns (chars subject) pattern.operators start counts stop ∧
      found = .ofCounts start counts := by
  rcases answered with whole | part
  · obtain ⟨counts, greediest, rfl⟩ := fullMatch?_eq_some_iff.mp whole
    exact ⟨0, counts, _, greediest.assigns, rfl⟩
  · obtain ⟨start, counts, stop, -, -, greediest, rfl⟩ := find?_eq_some_iff.mp part
    exact ⟨start, counts, stop, greediest.assigns, rfl⟩

theorem found_at_zero (free : pattern.acceptsEmpty = true) (subject : String) :
    ∃ found, pattern.find? subject = some found ∧ found.span.start = 0 := by
  have completable : Completable (chars subject) (fun _ => True) pattern.operators 0 :=
    ⟨_, 0, .nothing (acceptsEmpty_iff.mp free) 0, trivial⟩
  obtain ⟨first, counts, stop, notLater, -, answered⟩ :=
    exists_find?_of_completable (Nat.zero_le _) completable
  obtain rfl : first = 0 := Nat.le_zero.mp notLater
  exact ⟨_, answered, rfl⟩

theorem isMatch_empty_of_found (answered : pattern.find? "" = some found) :
    pattern.isMatch "" = true := by
  obtain ⟨start, counts, stop, inside, -, greediest, -⟩ := find?_eq_some_iff.mp answered
  obtain rfl : start = 0 := Nat.le_zero.mp inside
  obtain rfl : stop = 0 := Nat.le_zero.mp (stop_le_length inside greediest.assigns)
  exact isMatch_iff_assigns.mpr ⟨counts, greediest.assigns⟩

theorem acceptsEmpty_of_isMatch (matched : pattern.isMatch "" = true) :
    pattern.acceptsEmpty = true := by
  obtain ⟨counts, assigned⟩ := isMatch_iff_assigns.mp matched
  have total : 0 = 0 + counts.sum := assigned.stop_eq
  have least : pattern.minLength ≤ counts.sum := assigned.sum_min_le
  exact minLength_eq_zero_iff.mp (by omega)

/-- Whether all minimums are zero, whether the empty text is matched, and whether every search
finds something at the first offset is the same question.  The minimums and the maximums bound
the length of every match, so that a pattern with another answer has no empty one. -/
theorem acceptsEmpty_and_lengths (pattern : Pattern) :
    [pattern.acceptsEmpty = true,
      pattern.isMatch "" = true,
      ∀ subject, ∃ found, pattern.find? subject = some found ∧ found.span.start = 0].TFAE ∧
    ∀ (subject : String) (found : Match),
      pattern.fullMatch? subject = some found ∨ pattern.find? subject = some found →
      pattern.minLength ≤ found.span.length ∧
      (∀ most, pattern.maxLength? = some most → found.span.length ≤ most) ∧
      (pattern.acceptsEmpty = false → found.span.isEmpty = false) := by
  constructor
  · tfae_have 1 → 3 := found_at_zero
    tfae_have 3 → 2 := by
      intro everywhere
      obtain ⟨found, answered, -⟩ := everywhere ""
      exact isMatch_empty_of_found answered
    tfae_have 2 → 1 := acceptsEmpty_of_isMatch
    tfae_finish
  · intro subject found answered
    obtain ⟨start, counts, stop, assigned, rfl⟩ := exists_assigns_of_found answered
    rw [Span.isEmpty, Match.length_span_ofCounts]
    have least : pattern.minLength ≤ counts.sum := assigned.sum_min_le
    refine ⟨least, ?_, ?_⟩
    · intro most bound
      obtain ⟨maxes, bounded, rfl⟩ := Option.map_eq_some_iff.mp bound
      exact assigned.sum_le_max bounded
    · intro needed
      have positive : pattern.minLength ≠ 0 := by
        rw [Ne, minLength_eq_zero_iff, needed]
        exact Bool.false_ne_true
      exact beq_eq_false_iff_ne.mpr (by omega)

/-- A match that leaves out an operator, in front of one that does not. -/
theorem acceptsEmpty_and_lengths_bounded :
    let pattern : Pattern := ⟨[⟨.literal 'a', .once⟩, ⟨.literal 'b', .optional⟩, ⟨.any, .once⟩]⟩
    let found : Match := ⟨.between 1 3, [[.single 1], [], [.single 2]]⟩
    pattern.find? "xacabc" = some found ∧ pattern.minLength ≤ found.span.length ∧
      pattern.maxLength? = some 3 ∧ found.span.length ≤ 3 ∧
      pattern.acceptsEmpty = false ∧ found.span.isEmpty = false := by
  intro pattern found
  have answered : pattern.find? "xacabc" = some found := by decide +kernel
  have bounded : pattern.maxLength? = some 3 := rfl
  have needed : pattern.acceptsEmpty = false := rfl
  obtain ⟨-, lengths⟩ := acceptsEmpty_and_lengths pattern
  obtain ⟨least, most, nonempty⟩ := lengths "xacabc" found (.inr answered)
  exact ⟨answered, least, bounded, most 3 bounded, needed, nonempty needed⟩

end Pattern

end PatternMatcher
