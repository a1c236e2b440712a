import Mathlib
import PatternMatcher.Proofs.Leftmost
import PatternMatcher.Proofs.Sequences
import PatternMatcher.Proofs.Tiling

/-!
# Unrolling a repetition

One or more repetitions of an atom are one repetition and then any number.  An operator for
the former may be replaced by two for the latter wherever it stands: the operators before it
are chosen by where those behind them can be completed, which is the same offsets, and its
own count is one more than the count that is left for the second of the two.
-/

namespace PatternMatcher

/-- The operator with the given index in a match has the repetitions that two operators have
in the other match, the first one's before the second one's; all other operators have the
same in both. -/
structure Match.Unrolls (index : Nat) (rolled unrolled : Match) : Prop where
  span_eq : rolled.span = unrolled.span
  repetitions_eq : ∃ before first more behind, before.length = index ∧
    rolled.repetitions = before ++ (first ++ more) :: behind ∧
    unrolled.repetitions = before ++ first :: more :: behind

variable {subject : Array Char} {mayEnd : Nat → Prop} {atom : Atom}
  {front back : List Operator} {start stop offset count more : Nat} {counts : List Nat}

namespace Operator

theorem takes_oneOrMore_succ_iff :
    Takes ⟨atom, .oneOrMore⟩ subject offset (more + 1) ↔
      Takes ⟨atom, .once⟩ subject offset 1 ∧
        Takes ⟨atom, .zeroOrMore⟩ subject (offset + 1) more := by
  constructor
  · intro taken
    refine ⟨takes_once_iff.mpr ⟨rfl, taken.accepted offset (Nat.le_refl _) (by omega)⟩, ?_⟩
    refine ⟨Nat.zero_le _, nofun, ?_⟩
    intro position after before
    exact taken.accepted position (by omega) (by omega)
  · intro both
    obtain ⟨first, others⟩ := both
    refine ⟨Nat.le_add_left 1 more, nofun, ?_⟩
    intro position after before
    rcases Nat.eq_or_lt_of_le after with rfl | later
    · exact (takes_once_iff.mp first).2
    · exact others.accepted position later (by omega)

end Operator

/-- Both forms can be completed from the same offsets. -/
theorem completable_unroll :
    Completable subject mayEnd (⟨atom, .oneOrMore⟩ :: back) =
      Completable subject mayEnd (⟨atom, .once⟩ :: ⟨atom, .zeroOrMore⟩ :: back) := by
  funext start
  apply propext
  constructor
  · intro completable
    obtain ⟨counts, stop, assigned, ending⟩ := completable
    obtain ⟨count, rest, rfl, taken, behind⟩ := Assigns.cons_iff.mp assigned
    obtain ⟨more, rfl⟩ := Nat.exists_eq_add_of_le' taken.min_le
    obtain ⟨first, others⟩ := Operator.takes_oneOrMore_succ_iff.mp taken
    rw [Nat.add_comm more, ← Nat.add_assoc] at behind
    exact ⟨1 :: more :: rest, stop, .cons first (.cons others behind), ending⟩
  · intro completable
    obtain ⟨counts, stop, assigned, ending⟩ := completable
    obtain ⟨count, rest, rfl, first, later⟩ := Assigns.cons_iff.mp assigned
    obtain ⟨more, rest, rfl, others, behind⟩ := Assigns.cons_iff.mp later
    obtain rfl : count = 1 := (Operator.takes_once_iff.mp first).1
    have taken := Operator.takes_oneOrMore_succ_iff.mpr ⟨first, others⟩
    rw [Nat.add_assoc, Nat.add_comm 1] at behind
    exact ⟨(more + 1) :: rest, stop, .cons taken behind, ending⟩

theorem completable_unroll_behind_iff :
    Completable subject mayEnd (front ++ ⟨atom, .oneOrMore⟩ :: back) start ↔
      Completable subject mayEnd (front ++ ⟨atom, .once⟩ :: ⟨atom, .zeroOrMore⟩ :: back)
        start := by
  rw [completable_append_iff, completable_append_iff, completable_unroll]

namespace Greediest

theorem unroll
    (greediest : Greediest subject mayEnd (⟨atom, .oneOrMore⟩ :: back) start counts stop) :
    ∃ more later, counts = (more + 1) :: later ∧
      Greediest subject mayEnd (⟨atom, .once⟩ :: ⟨atom, .zeroOrMore⟩ :: back) start
        (1 :: more :: later) stop := by
  cases greediest with
  | @cons _ _ _ count _ later taken largest behind =>
      obtain ⟨more, rfl⟩ := Nat.exists_eq_add_of_le' taken.min_le
      obtain ⟨first, others⟩ := Operator.takes_oneOrMore_succ_iff.mp taken
      rw [Nat.add_comm more, ← Nat.add_assoc] at behind
      refine ⟨more, later, rfl, .cons first ?_ (.cons others ?_ behind)⟩
      · intro count above takes
        have one := (Operator.takes_once_iff.mp takes).1
        omega
      · intro count above takes
        have reach := largest (count + 1) (Nat.succ_lt_succ above)
          (Operator.takes_oneOrMore_succ_iff.mpr ⟨first, takes⟩)
        rwa [Nat.add_comm count, ← Nat.add_assoc] at reach

theorem unroll_behind
    (greediest : Greediest subject mayEnd (front ++ ⟨atom, .oneOrMore⟩ :: back) start
      counts stop) :
    ∃ first more later, first.length = front.length ∧
      counts = first ++ (more + 1) :: later ∧
      Greediest subject mayEnd (front ++ ⟨atom, .once⟩ :: ⟨atom, .zeroOrMore⟩ :: back) start
        (first ++ 1 :: more :: later) stop := by
  obtain ⟨first, second, middle, rfl, before, after⟩ := append_iff.mp greediest
  obtain ⟨more, later, rfl, unrolled⟩ := after.unroll
  refine ⟨first, more, later, before.assigns.length_eq, rfl, ?_⟩
  rw [completable_unroll] at before
  exact append_iff.mpr ⟨first, 1 :: more :: later, middle, rfl, before, unrolled⟩

end Greediest

theorem Match.unrolls_ofCounts (start more : Nat) (first later : List Nat) :
    Unrolls first.length (ofCounts start (first ++ (more + 1) :: later))
      (ofCounts start (first ++ 1 :: more :: later)) where
  span_eq := by
    simp [ofCounts, Nat.add_assoc, Nat.add_comm 1]
  repetitions_eq := by
    refine ⟨shares start first, Span.singles (start + first.sum) 1,
      Span.singles (start + first.sum + 1) more,
      shares (start + first.sum + (more + 1)) later, length_shares start first, ?_, ?_⟩
    · change shares start (first ++ (more + 1) :: later) = _
      rw [shares_append, shares, Span.singles_append, Nat.add_comm 1]
    · change shares start (first ++ 1 :: more :: later) = _
      rw [shares_append, shares, shares, Nat.add_assoc _ 1, Nat.add_comm 1]

namespace Pattern

section Related

variable {pattern other : Pattern} {text : String} {related : Match → Match → Prop}

theorem fullMatch?_rel
    (same : Completable (chars text) (· = text.length) pattern.operators 0 ↔
      Completable (chars text) (· = text.length) other.operators 0)
    (carried : ∀ counts stop,
      Greediest (chars text) (· = text.length) pattern.operators 0 counts stop →
      ∃ others, Greediest (chars text) (· = text.length) other.operators 0 others stop ∧
        related (.ofCounts 0 counts) (.ofCounts 0 others)) :
    Option.Rel related (pattern.fullMatch? text) (other.fullMatch? text) := by
  cases answered : pattern.fullMatch? text with
  | none =>
      have stuck := fullMatch?_eq_none_iff.mp answered
      rw [fullMatch?_eq_none_iff.mpr fun completable => stuck (same.mpr completable)]
      exact .none
  | some found =>
      obtain ⟨counts, greediest, rfl⟩ := fullMatch?_eq_some_iff.mp answered
      obtain ⟨others, greediest', holds⟩ := carried _ _ greediest
      rw [fullMatch?_eq_some_iff.mpr ⟨others, greediest', rfl⟩]
      exact .some holds

theorem find?_rel
    (same : ∀ start, Completable (chars text) (fun _ => True) pattern.operators start ↔
      Completable (chars text) (fun _ => True) other.operators start)
    (carried : ∀ start counts stop,
      Greediest (chars text) (fun _ => True) pattern.operators start counts stop →
      ∃ others, Greediest (chars text) (fun _ => True) other.operators start others stop ∧
        related (.ofCounts start counts) (.ofCounts start others)) :
    Option.Rel related (pattern.find? text) (other.find? text) := by
  cases answered : pattern.find? text with
  | none =>
      have stuck := find?_eq_none_iff.mp answered
      rw [find?_eq_none_iff.mpr fun start inside completable =>
        stuck start inside ((same start).mpr completable)]
      exact .none
  | some found =>
      obtain ⟨start, counts, stop, inside, leftmost, greediest, rfl⟩ :=
        find?_eq_some_iff.mp answered
      obtain ⟨others, greediest', holds⟩ := carried _ _ _ greediest
      have leftmost' : ∀ earlier, earlier < start →
          ¬Completable (chars text) (fun _ => True) other.operators earlier := by
        intro earlier before completable
        exact leftmost earlier before ((same earlier).mpr completable)
      rw [find?_eq_some_iff.mpr ⟨start, others, stop, inside, leftmost', greediest', rfl⟩]
      exact .some holds

end Related

/-- An operator for one or more repetitions and the two operators for one repetition and any
number of further ones match the same, whatever stands around them: both patterns have no
match, or they have matches of which one unrolls to the other. -/
theorem oneOrMore_unrolls (front back : List Operator) (atom : Atom) (subject : String) :
    let rolled : Pattern := ⟨front ++ ⟨atom, .oneOrMore⟩ :: back⟩
    let unrolled : Pattern := ⟨front ++ ⟨atom, .once⟩ :: ⟨atom, .zeroOrMore⟩ :: back⟩
    Option.Rel (Match.Unrolls front.length) (rolled.fullMatch? subject)
        (unrolled.fullMatch? subject) ∧
      Option.Rel (Match.Unrolls front.length) (rolled.find? subject)
        (unrolled.find? subject) := by
  intro rolled unrolled
  have carried {mayEnd : Nat → Prop} (start : Nat) (counts : List Nat) (stop : Nat)
      (greediest : Greediest (chars subject) mayEnd rolled.operators start counts stop) :
      ∃ others, Greediest (chars subject) mayEnd unrolled.operators start others stop ∧
        (Match.ofCounts start counts).Unrolls front.length (.ofCounts start others) := by
    obtain ⟨first, more, later, sameLength, rfl, greediest'⟩ := greediest.unroll_behind
    rw [← sameLength]
    exact ⟨_, greediest', Match.unrolls_ofCounts start more first later⟩
  constructor
  · exact fullMatch?_rel completable_unroll_behind_iff (carried 0)
  · exact find?_rel (fun _ => completable_unroll_behind_iff) carried

end Pattern

end PatternMatcher
