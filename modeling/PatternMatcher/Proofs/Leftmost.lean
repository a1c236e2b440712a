import Mathlib
import PatternMatcher.Proofs.Coverage

/-!
# Searches find the leftmost longest match

A part of the subject, taken as a subject of its own, is matched as a whole
exactly if an assignment leads from its first offset to its last one.  A search
therefore finds nothing only if no part is matched.  Otherwise it finds the
longest part among those that begin furthest to the left, although it prefers
more repetitions of an earlier operator and not a longer match; and the found
part on its own has the same match, moved to the beginning.
-/

namespace PatternMatcher

/-- The part of a subject between two offsets, as a subject of its own. -/
def part (subject : String) (start stop : Nat) : String :=
  .ofList (subject.toList.extract start stop)

theorem chars_part (subject : String) (start stop : Nat) :
    chars (part subject start stop) = (chars subject).extract start stop := by
  rw [chars, part, String.toList_ofList, List.extract_toArray]

theorem length_part {subject : String} {start stop : Nat} (within : stop ≤ subject.length) :
    (part subject start stop).length = stop - start := by
  rw [← size_chars, chars_part, Array.size_extract, size_chars, Nat.min_eq_left within]

namespace Pattern

variable {pattern : Pattern} {subject : String} {start stop : Nat} {counts : List Nat}

theorem assigns_part_iff (ordered : start ≤ stop) (within : stop ≤ subject.length) :
    Assigns (chars (part subject start stop)) pattern.operators 0 counts
        (part subject start stop).length ↔
      Assigns (chars subject) pattern.operators start counts stop := by
  rw [chars_part, length_part within, assigns_extract_iff (by omega), Nat.add_zero,
    Nat.add_sub_cancel' ordered]

theorem isMatch_part_iff (ordered : start ≤ stop) (within : stop ≤ subject.length) :
    pattern.isMatch (part subject start stop) = true ↔
      ∃ counts, Assigns (chars subject) pattern.operators start counts stop := by
  rw [isMatch_iff_covers, ← completable_iff_covers]
  constructor
  · intro completable
    obtain ⟨counts, last, assigned, ending⟩ := completable
    subst ending
    exact ⟨counts, (assigns_part_iff ordered within).mp assigned⟩
  · intro assignable
    obtain ⟨counts, assigned⟩ := assignable
    exact ⟨counts, _, (assigns_part_iff ordered within).mpr assigned, rfl⟩

theorem stop_le_length (inSubject : start ≤ subject.length)
    (assigned : Assigns (chars subject) pattern.operators start counts stop) :
    stop ≤ subject.length := by
  rw [← size_chars] at inSubject ⊢
  exact assigned.stop_le inSubject

theorem completable_iff_part (inSubject : start ≤ subject.length) :
    Completable (chars subject) (fun _ => True) pattern.operators start ↔
      ∃ last, start ≤ last ∧ last ≤ subject.length ∧
        pattern.isMatch (part subject start last) = true := by
  constructor
  · intro completable
    obtain ⟨counts, last, assigned, -⟩ := completable
    have ordered := assigned.start_le
    have within := stop_le_length inSubject assigned
    exact ⟨last, ordered, within, (isMatch_part_iff ordered within).mpr ⟨counts, assigned⟩⟩
  · intro matchable
    obtain ⟨last, ordered, within, matched⟩ := matchable
    obtain ⟨counts, assigned⟩ := (isMatch_part_iff ordered within).mp matched
    exact ⟨counts, last, assigned, trivial⟩

theorem isLeast_start (inSubject : start ≤ subject.length)
    (completable : Completable (chars subject) (fun _ => True) pattern.operators start)
    (leftmost : ∀ earlier, earlier < start →
      ¬Completable (chars subject) (fun _ => True) pattern.operators earlier) :
    IsLeast { first | ∃ last, first ≤ last ∧ last ≤ subject.length ∧
      pattern.isMatch (part subject first last) = true } start := by
  constructor
  · exact (completable_iff_part inSubject).mp completable
  · intro first matchable
    obtain ⟨last, ordered, within, matched⟩ := matchable
    apply Nat.le_of_not_lt
    intro earlier
    apply leftmost first earlier
    apply (completable_iff_part (Nat.le_trans ordered within)).mpr
    exact ⟨last, ordered, within, matched⟩

theorem isGreatest_stop (inSubject : start ≤ subject.length)
    (greediest : Greediest (chars subject) (fun _ => True) pattern.operators start counts stop) :
    IsGreatest { last | start ≤ last ∧ last ≤ subject.length ∧
      pattern.isMatch (part subject start last) = true } stop := by
  constructor
  · have ordered := greediest.assigns.start_le
    have within := stop_le_length inSubject greediest.assigns
    exact ⟨ordered, within, (isMatch_part_iff ordered within).mpr ⟨counts, greediest.assigns⟩⟩
  · intro last matchable
    obtain ⟨ordered, within, matched⟩ := matchable
    obtain ⟨others, assigned⟩ := (isMatch_part_iff ordered within).mp matched
    exact greediest.stop_le assigned trivial

theorem find?_of_ok {answer : Option Match}
    (answered : pattern.unlimited.find subject = .ok answer) :
    pattern.find? subject = answer := by
  rw [find?, answered]

theorem find?_eq_some_iff {found : Match} :
    pattern.find? subject = some found ↔
      ∃ start counts stop, start ≤ subject.length ∧
        (∀ earlier, earlier < start →
          ¬Completable (chars subject) (fun _ => True) pattern.operators earlier) ∧
        Greediest (chars subject) (fun _ => True) pattern.operators start counts stop ∧
        found = .ofCounts start counts := by
  rcases pattern.find_unlimited subject with
    ⟨start, counts, stop, inSubject, leftmost, greediest, answered⟩ | ⟨stuck, answered⟩
  · rw [find?_of_ok answered]
    constructor
    · intro same
      exact ⟨start, counts, stop, inSubject, leftmost, greediest, (Option.some.inj same).symm⟩
    · intro leads
      obtain ⟨first, others, last, _, leftmost', greediest', rfl⟩ := leads
      have notLater : start ≤ first := Nat.le_of_not_lt fun earlier =>
        leftmost first earlier greediest'.completable
      have notEarlier : first ≤ start := Nat.le_of_not_lt fun later =>
        leftmost' start later greediest.completable
      obtain rfl := le_antisymm notLater notEarlier
      have below := greediest.counts_le greediest'.assigns trivial
      have above := greediest'.counts_le greediest.assigns trivial
      rw [le_antisymm above below]
  · rw [find?_of_ok answered]
    constructor
    · intro same
      cases same
    · intro leads
      obtain ⟨start, counts, stop, inSubject, _, greediest, _⟩ := leads
      exact absurd greediest.completable (stuck start inSubject)

theorem find?_eq_none_iff :
    pattern.find? subject = none ↔
      ∀ start, start ≤ subject.length →
        ¬Completable (chars subject) (fun _ => True) pattern.operators start := by
  rcases pattern.find_unlimited subject with
    ⟨start, counts, stop, inSubject, _, greediest, answered⟩ | ⟨stuck, answered⟩
  · rw [find?_of_ok answered]
    constructor
    · intro absent
      cases absent
    · intro stuck
      exact absurd greediest.completable (stuck start inSubject)
  · rw [find?_of_ok answered]
    exact iff_of_true rfl stuck

/-- A search ends no later than where the pattern can be completed. -/
theorem exists_find?_of_completable (inside : start ≤ subject.length)
    (completable : Completable (chars subject) (fun _ => True) pattern.operators start) :
    ∃ first counts stop, first ≤ start ∧
      Greediest (chars subject) (fun _ => True) pattern.operators first counts stop ∧
      pattern.find? subject = some (.ofCounts first counts) := by
  cases answered : pattern.find? subject with
  | none => exact absurd completable (find?_eq_none_iff.mp answered start inside)
  | some found =>
      obtain ⟨first, counts, stop, -, leftmost, greediest, rfl⟩ := find?_eq_some_iff.mp answered
      refine ⟨first, counts, stop, ?_, greediest, rfl⟩
      apply Nat.le_of_not_lt
      intro later
      exact leftmost start later completable

theorem exists_found_iff_completable :
    (∃ found, pattern.find? subject = some found) ↔
      ∃ start, start ≤ subject.length ∧
        Completable (chars subject) (fun _ => True) pattern.operators start := by
  rw [← Option.isSome_iff_exists, ← Option.ne_none_iff_isSome, Ne, find?_eq_none_iff]
  simp only [not_forall, not_not, exists_prop]

/-- A greediest assignment is the match of the part of the subject it leads through. -/
theorem fullMatch?_part {mayEnd : Nat → Prop} (ordered : start ≤ stop)
    (within : stop ≤ subject.length)
    (greediest : Greediest (chars subject) mayEnd pattern.operators start counts stop) :
    pattern.fullMatch? (part subject start stop) = some (.ofCounts 0 counts) := by
  have covering := (assigns_part_iff ordered within).mpr greediest.assigns
  have matched := (isMatch_part_iff ordered within).mpr ⟨counts, greediest.assigns⟩
  obtain ⟨found, answered⟩ := Option.isSome_iff_exists.mp matched
  obtain ⟨others, partGreediest, rfl⟩ := fullMatch?_eq_some_iff.mp answered
  have otherAssigned := (assigns_part_iff ordered within).mp partGreediest.assigns
  have below : others ≤ counts := greediest.counts_le otherAssigned greediest.mayEnd_stop
  have above : counts ≤ others := partGreediest.counts_le covering rfl
  rw [answered, le_antisymm below above]

/-- A search finds nothing exactly if no part of the subject is matched as a
whole; otherwise it finds the longest of the leftmost parts that are, with the
match which that part has on its own. -/
theorem find_leftmost_longest (pattern : Pattern) (subject : String) :
    (pattern.find? subject = none ↔
      ∀ start stop, start ≤ stop → stop ≤ subject.length →
        pattern.isMatch (part subject start stop) = false) ∧
    ∀ found, pattern.find? subject = some found →
      ∃ start stop : Nat, found.span = .between start stop ∧
        IsLeast { first | ∃ last, first ≤ last ∧ last ≤ subject.length ∧
          pattern.isMatch (part subject first last) = true } start ∧
        IsGreatest { last | start ≤ last ∧ last ≤ subject.length ∧
          pattern.isMatch (part subject start last) = true } stop ∧
        pattern.fullMatch? (part subject start stop) = some (found.shift (-start)) := by
  rcases pattern.find_unlimited subject with
    ⟨start, counts, stop, inSubject, leftmost, greediest, answered⟩ | ⟨stuck, answered⟩
  · have ordered := greediest.assigns.start_le
    have within := stop_le_length inSubject greediest.assigns
    rw [find?_of_ok answered]
    constructor
    · constructor
      · intro absent
        cases absent
      · intro unmatched
        have matched := (isMatch_part_iff ordered within).mpr ⟨counts, greediest.assigns⟩
        have missed := unmatched start stop ordered within
        rw [matched] at missed
        cases missed
    · intro found same
      cases same
      refine ⟨start, stop, ?_, ?_, ?_, ?_⟩
      · rw [greediest.assigns.stop_eq]
        rfl
      · exact isLeast_start inSubject greediest.completable leftmost
      · exact isGreatest_stop inSubject greediest
      · have moved : (start : Int) + -(start : Int) = (0 : Nat) := by omega
        rw [fullMatch?_part ordered within greediest, Match.shift_ofCounts moved]
  · rw [find?_of_ok answered]
    constructor
    · constructor
      · intro _ start stop ordered within
        apply Bool.eq_false_iff.mpr
        intro matched
        have inSubject := Nat.le_trans ordered within
        apply stuck start inSubject
        exact (completable_iff_part inSubject).mpr ⟨stop, ordered, within, matched⟩
      · intro _
        rfl
    · intro found same
      cases same

end Pattern

end PatternMatcher
