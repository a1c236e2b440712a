import Mathlib
import PatternMatcher.Proofs.Leftmost
import PatternMatcher.Proofs.RoundTrip
import PatternMatcher.Proofs.Sequences

/-!
# Patterns read backwards

An assignment says which characters each operator takes, and not in which order they are
looked at.  Read from the end of the subject, it is an assignment of the operators in reverse
order (`Assigns.reverse`).  So a pattern and its reverse match the same subjects, one forwards
and the other backwards, and find something in the same ones.  The matches need not be
each other's reverse, since both patterns are greedy on their own left.
-/

namespace PatternMatcher

/-- The pattern with its operators in reverse order. -/
def Pattern.reversed (pattern : Pattern) : Pattern := ⟨pattern.operators.reverse⟩

/-- A text with its characters in reverse order. -/
def backwards (text : String) : String := .ofList text.toList.reverse

@[simp] theorem Pattern.reversed_reversed (pattern : Pattern) :
    pattern.reversed.reversed = pattern := by
  simp [reversed]

@[simp] theorem backwards_backwards (text : String) : backwards (backwards text) = text := by
  simp [backwards]

@[simp] theorem length_backwards (text : String) : (backwards text).length = text.length := by
  simp [backwards, String.length_toList]

theorem chars_backwards (text : String) : chars (backwards text) = (chars text).reverse := by
  simp [chars, backwards]

section Assignments

variable {subject : Array Char} {operator : Operator} {operators : List Operator}
  {start stop offset count : Nat} {counts : List Nat}

theorem Operator.acceptsAt_reverse (inside : offset < subject.size) :
    operator.acceptsAt subject.reverse (subject.size - 1 - offset) =
      operator.acceptsAt subject offset := by
  have mirrored : subject.size - 1 - (subject.size - 1 - offset) = offset := by omega
  rw [acceptsAt, acceptsAt, Array.getElem?_reverse (by omega), mirrored]

theorem Operator.Takes.reverse (taken : operator.Takes subject offset count)
    (inside : offset + count ≤ subject.size) :
    operator.Takes subject.reverse (subject.size - (offset + count)) count := by
  refine ⟨taken.min_le, taken.le_max, ?_⟩
  intro position after before
  have accepted := taken.accepted (subject.size - 1 - position) (by omega) (by omega)
  rw [← acceptsAt_reverse (by omega)] at accepted
  rwa [show subject.size - 1 - (subject.size - 1 - position) = position by omega] at accepted

/-- An assignment, read from the end of the subject. -/
theorem Assigns.reverse (assigned : Assigns subject operators start counts stop)
    (inside : start ≤ subject.size) :
    Assigns subject.reverse operators.reverse (subject.size - stop) counts.reverse
      (subject.size - start) := by
  induction assigned with
  | nil offset => exact .nil _
  | @cons operator operators offset count stop counts taken _ ih =>
      have reach := taken.add_le inside
      have last : subject.size - (offset + count) + count = subject.size - offset := by omega
      -- What the first operator takes stands behind all that the others take.
      have here := Assigns.cons (taken.reverse reach) (.nil _)
      rw [last] at here
      rw [List.reverse_cons, List.reverse_cons]
      exact (ih reach).append here

end Assignments

namespace Pattern

variable {pattern : Pattern} {subject : String}

theorem isMatch_backwards (matched : pattern.isMatch subject = true) :
    pattern.reversed.isMatch (backwards subject) = true := by
  obtain ⟨counts, assigned⟩ := isMatch_iff_assigns.mp matched
  have mirrored := assigned.reverse (Nat.zero_le _)
  rw [size_chars, Nat.sub_self, Nat.sub_zero, ← chars_backwards] at mirrored
  rw [isMatch_iff_assigns, length_backwards]
  exact ⟨counts.reverse, mirrored⟩

theorem exists_found_backwards (answered : ∃ found, pattern.find? subject = some found) :
    ∃ found, pattern.reversed.find? (backwards subject) = some found := by
  rw [exists_found_iff_completable] at answered ⊢
  obtain ⟨start, inside, counts, stop, assigned, -⟩ := answered
  rw [← size_chars] at inside
  have mirrored := assigned.reverse inside
  rw [size_chars, ← chars_backwards] at mirrored
  refine ⟨subject.length - stop, ?_, counts.reverse, _, mirrored, trivial⟩
  rw [length_backwards]
  exact Nat.sub_le _ _

theorem render_eq_join (pattern : Pattern) :
    pattern.render = String.join (pattern.operators.map Operator.render) := by
  apply String.toList_injective
  rw [render, String.toList_ofList, String.toList_join, List.flatMap_map, spelling]
  simp only [Operator.render, String.toList_ofList]

/-- The written forms of the operators in reverse order are read as the reversed pattern,
which matches and finds something backwards exactly where the pattern does so forwards. -/
theorem reversed_matches_backwards (pattern : Pattern) :
    parse (String.join (pattern.operators.reverse.map Operator.render)) = .ok pattern.reversed ∧
    ∀ subject : String,
      pattern.reversed.isMatch (backwards subject) = pattern.isMatch subject ∧
      (pattern.reversed.find? (backwards subject)).isSome = (pattern.find? subject).isSome := by
  refine ⟨?_, fun subject => ⟨?_, ?_⟩⟩
  · have readBack := pattern.reversed.parse_of_render
    rwa [render_eq_join] at readBack
  · rw [Bool.eq_iff_iff]
    refine ⟨fun mirrored => ?_, isMatch_backwards⟩
    simpa using isMatch_backwards mirrored
  · rw [Bool.eq_iff_iff, Option.isSome_iff_exists, Option.isSome_iff_exists]
    refine ⟨fun mirrored => ?_, exists_found_backwards⟩
    simpa using exists_found_backwards mirrored

/-- Both runs are greedy from the left, so the counts are not reversed. -/
example :
    let pattern : Pattern := ⟨[⟨.literal 'a', .zeroOrMore⟩, ⟨.any, .optional⟩]⟩
    (pattern.fullMatch? "aa").map Match.counts = some [2, 0] ∧
      (pattern.reversed.fullMatch? (backwards "aa")).map Match.counts = some [1, 1] := by
  decide +kernel

end Pattern

end PatternMatcher
