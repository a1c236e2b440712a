import Mathlib
import PatternMatcher.Proofs.Leftmost
import PatternMatcher.Proofs.Tiling

/-!
# Wider patterns

A pattern widens another one if each of its operators accepts the characters that the operator
in the same place accepts, and allows the numbers of repetitions that one allows.  Every
assignment of the narrower pattern is then one of the wider pattern (`Assigns.widen`).  So the
match of the narrower one is a rival of the greediest assignment of the wider one, which
is nowhere behind its rivals: the wider pattern has a match where the narrower one has, and none
of its operators ends earlier, although each of them takes what it can from those behind it.
-/

namespace PatternMatcher

/-- The second operator accepts all characters, and allows all counts, that the first one does. -/
structure Operator.Within (operator wider : Operator) : Prop where
  accepts : ∀ char, operator.atom.accepts char = true → wider.atom.accepts char = true
  min_le : wider.min ≤ operator.min
  le_max : ∀ most, wider.max? = some most → ∃ max, operator.max? = some max ∧ max ≤ most

/-- Each operator of the second pattern is at least as wide as the one in its place. -/
def Pattern.Within (pattern wider : Pattern) : Prop :=
  List.Forall₂ Operator.Within pattern.operators wider.operators

/-- Two matches with the same number of operators, none of which ends earlier in the second. -/
def Match.EndsNoLater (found other : Match) : Prop :=
  List.Forall₂ (fun span span' => span.stop ≤ span'.stop) found.consumed other.consumed

variable {subject : Array Char} {mayEnd : Nat → Prop} {operator wide : Operator}
  {operators wider : List Operator} {start stop offset count : Nat} {counts : List Nat}

theorem Operator.Within.acceptsAt (within : operator.Within wide)
    (accepted : operator.acceptsAt subject offset = true) :
    wide.acceptsAt subject offset = true := by
  obtain ⟨char, present, accepts⟩ := (Option.any_eq_true _ _).mp accepted
  exact (Option.any_eq_true _ _).mpr ⟨char, present, within.accepts char accepts⟩

theorem Operator.Takes.widen (taken : operator.Takes subject offset count)
    (within : operator.Within wide) : wide.Takes subject offset count := by
  refine ⟨Nat.le_trans within.min_le taken.min_le, ?_, ?_⟩
  · intro most bound
    obtain ⟨max, narrower, less⟩ := within.le_max most bound
    exact Nat.le_trans (taken.le_max max narrower) less
  · intro position after before
    exact within.acceptsAt (taken.accepted position after before)

theorem Assigns.widen (assigned : Assigns subject operators start counts stop)
    (within : List.Forall₂ Operator.Within operators wider) :
    Assigns subject wider start counts stop := by
  induction assigned generalizing wider with
  | nil offset =>
      cases within
      exact .nil offset
  | cons taken _ ih =>
      cases within with
      | cons first later => exact .cons (taken.widen first) (ih later)

theorem Completable.widen (completable : Completable subject mayEnd operators start)
    (within : List.Forall₂ Operator.Within operators wider) :
    Completable subject mayEnd wider start := by
  obtain ⟨counts, stop, assigned, ending⟩ := completable
  exact ⟨counts, stop, assigned.widen within, ending⟩

theorem Match.endsNoLater_tile {others : List Nat} {offset' : Nat}
    (sameLength : counts.length = others.length)
    (behind : ∀ index, offset + (counts.take index).sum ≤ offset' + (others.take index).sum) :
    List.Forall₂ (fun span span' => span.stop ≤ span'.stop)
      (tile offset (shares offset counts)) (tile offset' (shares offset' others)) := by
  induction counts generalizing offset offset' others with
  | nil =>
      obtain rfl : others = [] := List.length_eq_zero_iff.mp sameLength.symm
      exact .nil
  | cons count later ih =>
      cases others with
      | nil => cases sameLength
      | cons other rest =>
          rw [shares, tile, stopOf_singles, shares, tile, stopOf_singles]
          have first : offset + count ≤ offset' + other := by simpa using behind 1
          refine .cons (Int.ofNat_le.mpr first) (ih (Nat.succ.inj sameLength) ?_)
          intro index
          have further := behind (index + 1)
          rw [List.take_succ_cons, List.take_succ_cons, List.sum_cons, List.sum_cons,
            ← Nat.add_assoc, ← Nat.add_assoc] at further
          exact further

/-- The greediest assignment of wider operators ends each of them no earlier than any
assignment of the narrower ones. -/
theorem Greediest.endsNoLater {others : List Nat} {otherStop : Nat}
    (greediest : Greediest subject mayEnd wider start counts stop)
    (assigned : Assigns subject operators start others otherStop) (ending : mayEnd otherStop)
    (within : List.Forall₂ Operator.Within operators wider) :
    (Match.ofCounts start others).EndsNoLater (.ofCounts start counts) := by
  have rival := assigned.widen within
  rw [Match.EndsNoLater, Match.consumed_ofCounts, Match.consumed_ofCounts]
  apply Match.endsNoLater_tile
  · exact rival.length_eq.trans greediest.assigns.length_eq.symm
  · exact greediest.sum_take_le (Nat.le_refl start) rival ending

namespace Pattern

variable {pattern wider : Pattern} {text : String} {found : Match}

theorem fullMatch?_widened (within : pattern.Within wider)
    (answered : pattern.fullMatch? text = some found) :
    ∃ more, wider.fullMatch? text = some more ∧ found.EndsNoLater more := by
  obtain ⟨counts, greediest, rfl⟩ := fullMatch?_eq_some_iff.mp answered
  cases widened : wider.fullMatch? text with
  | none =>
      exact absurd (greediest.completable.widen within) (fullMatch?_eq_none_iff.mp widened)
  | some more =>
      obtain ⟨others, greediest', rfl⟩ := fullMatch?_eq_some_iff.mp widened
      exact ⟨_, rfl, greediest'.endsNoLater greediest.assigns rfl within⟩

theorem find?_widened (within : pattern.Within wider)
    (answered : pattern.find? text = some found) :
    ∃ more, wider.find? text = some more ∧ more.span.start ≤ found.span.start ∧
      (more.span.start = found.span.start → found.EndsNoLater more) := by
  obtain ⟨start, counts, stop, inside, -, greediest, rfl⟩ := find?_eq_some_iff.mp answered
  obtain ⟨first, others, last, notLater, greediest', widened⟩ :=
    exists_find?_of_completable inside (greediest.completable.widen within)
  refine ⟨_, widened, Int.ofNat_le.mpr notLater, ?_⟩
  intro same
  obtain rfl : first = start := Int.ofNat_inj.mp same
  exact greediest'.endsNoLater greediest.assigns trivial within

/-- A wider pattern matches what the narrower one matches, and ends none of its operators
earlier there.  It finds a match that begins no later, and one that begins in the same place
ends none of its operators earlier. -/
theorem matches_widened (pattern wider : Pattern) (within : pattern.Within wider)
    (subject : String) :
    (pattern.isMatch subject = true → wider.isMatch subject = true) ∧
    (∀ found, pattern.fullMatch? subject = some found →
      ∃ more, wider.fullMatch? subject = some more ∧ found.EndsNoLater more) ∧
    (∀ found, pattern.find? subject = some found →
      ∃ more, wider.find? subject = some more ∧ more.span.start ≤ found.span.start ∧
        (more.span.start = found.span.start → found.EndsNoLater more)) := by
  refine ⟨?_, fun _ => fullMatch?_widened within, fun _ => find?_widened within⟩
  intro matched
  obtain ⟨found, answered⟩ := Option.isSome_iff_exists.mp matched
  obtain ⟨more, widened, -⟩ := fullMatch?_widened within answered
  exact Option.isSome_iff_exists.mpr ⟨more, widened⟩

/-- The first operator of the wider pattern takes from the second one what the narrower
pattern leaves to it, and a search with it begins further to the left. -/
theorem matches_widened_taking_over :
    let pattern : Pattern := ⟨[⟨.literal 'a', .optional⟩, ⟨.literal 'b', .once⟩]⟩
    let wider : Pattern := ⟨[⟨.any, .zeroOrMore⟩, ⟨.noneOf .empty, .optional⟩]⟩
    let found : Match := ⟨.between 0 2, [[.single 0], [.single 1]]⟩
    pattern.Within wider ∧
      pattern.fullMatch? "ab" = some found ∧
      (∃ more, wider.fullMatch? "ab" = some more ∧ found.EndsNoLater more) ∧
      pattern.find? "xab" = some (found.shift 1) ∧
      ∃ more, wider.find? "xab" = some more ∧ more.span.start ≤ (found.shift 1).span.start ∧
        (more.span.start = (found.shift 1).span.start → (found.shift 1).EndsNoLater more) := by
  intro pattern wider found
  have within : pattern.Within wider := by
    refine .cons ⟨fun _ _ => rfl, Nat.le_refl 0, nofun⟩ (.cons ⟨?_, Nat.zero_le 1, ?_⟩ .nil)
    · intro char _
      simp [Atom.accepts, CharSet.contains, CharSet.empty, CharSet.bisect]
    · intro most bound
      exact ⟨1, rfl, Nat.le_of_eq (Option.some.inj bound)⟩
  have matched : pattern.fullMatch? "ab" = some found := by decide +kernel
  have answered : pattern.find? "xab" = some (found.shift 1) := by decide +kernel
  obtain ⟨-, whole, -⟩ := matches_widened pattern wider within "ab"
  obtain ⟨-, -, part⟩ := matches_widened pattern wider within "xab"
  exact ⟨within, matched, whole found matched, answered, part _ answered⟩

end Pattern

end PatternMatcher
