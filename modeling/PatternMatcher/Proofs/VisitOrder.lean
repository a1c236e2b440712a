import Mathlib
import PatternMatcher.Proofs.Assignment

/-!
# The order of partial assignments

A search gives counts to the first operators of a pattern, one operator after another.
`Precedes` is the order in which it comes to these counts: before any counts that go on
from them, and the larger count first.  What lies between some counts and the same ones
with one more count goes on from them with a larger one (`exists_between`), which is
why the next counts are never far.
-/

namespace PatternMatcher

/-- Counts for the first operators of a pattern, each within the bounds of its operator
and accepted by it behind the operators before. -/
structure Pattern.PartialAssignment (pattern : Pattern) (subject : Array Char) (start : Nat)
    (counts : List Nat) : Prop where
  length_le : counts.length ≤ pattern.size
  takes : ∀ (index : Nat) (operator : Operator) (count : Nat),
    pattern.operators[index]? = some operator → counts[index]? = some count →
    operator.Takes subject (start + (counts.take index).sum) count

/-- Counts exceed others if they are larger where the two differ first. -/
def Exceeds (counts others : List Nat) : Prop :=
  ∃ front more fewer rest rest',
    counts = front ++ more :: rest ∧ others = front ++ fewer :: rest' ∧ fewer < more

/-- Counts come no later than others if these go on from them, or are exceeded by them. -/
def NoLater (counts others : List Nat) : Prop :=
  counts <+: others ∨ Exceeds counts others

/-- The order in which counts are tried. -/
abbrev Precedes : List Nat → List Nat → Prop := List.Lex (· > ·)

section Order

variable {counts others later front rest : List Nat} {count : Nat}

theorem Precedes.trans (first : Precedes counts others) (second : Precedes others later) :
    Precedes counts later := by
  induction first generalizing later with
  | nil =>
      cases second with
      | rel _ => exact .nil
      | cons _ => exact .nil
  | rel more =>
      cases second with
      | rel more' => exact .rel (Nat.lt_trans more' more)
      | cons _ => exact .rel more
  | cons _ ih =>
      cases second with
      | rel more => exact .rel more
      | cons second => exact .cons (ih second)

theorem Precedes.not_reverse (before : Precedes counts others) : ¬Precedes others counts :=
  asymm before

theorem Precedes.irrefl (counts : List Nat) : ¬Precedes counts counts :=
  fun before => before.not_reverse before

theorem Precedes.of_exceeds (exceeding : Exceeds counts others) : Precedes counts others := by
  obtain ⟨front, more, fewer, rest, rest', rfl, rfl, less⟩ := exceeding
  exact List.Lex.append_left (· > ·) (.rel less) front

theorem Precedes.append_cons (counts : List Nat) (count : Nat) (rest : List Nat) :
    Precedes counts (counts ++ count :: rest) := by
  have longer : Precedes (counts ++ []) (counts ++ count :: rest) :=
    List.Lex.append_left (· > ·) .nil counts
  rwa [List.append_nil] at longer

theorem eq_or_precedes_of_prefix (starts : counts <+: others) :
    counts = others ∨ Precedes counts others := by
  obtain ⟨rest, rfl⟩ := starts
  cases rest with
  | nil => exact .inl (List.append_nil counts).symm
  | cons count rest => exact .inr (.append_cons counts count rest)

theorem noLater_iff : NoLater counts others ↔ counts = others ∨ Precedes counts others := by
  constructor
  · rintro (starts | exceeding)
    · exact eq_or_precedes_of_prefix starts
    · exact .inr (.of_exceeds exceeding)
  · rintro (rfl | before)
    · exact .inl (List.prefix_refl counts)
    · induction before with
      | nil => exact .inl List.nil_prefix
      | @rel more rest fewer rest' less =>
          exact .inr ⟨[], more, fewer, rest, rest', rfl, rfl, less⟩
      | @cons count counts others _ ih =>
          rcases ih with starts | ⟨front, more, fewer, rest, rest', rfl, rfl, less⟩
          · exact .inl ((List.prefix_cons_inj count).mpr starts)
          · exact .inr ⟨count :: front, more, fewer, rest, rest', rfl, rfl, less⟩

theorem NoLater.not_precedes (early : NoLater counts others) : ¬Precedes others counts := by
  rcases noLater_iff.mp early with rfl | before
  · exact Precedes.irrefl counts
  · exact before.not_reverse

theorem noLater_of_not_precedes (notBehind : ¬Precedes others counts) :
    NoLater counts others := by
  rcases trichotomous_of Precedes counts others with before | same | behind
  · exact noLater_iff.mpr (.inr before)
  · exact noLater_iff.mpr (.inl same)
  · exact absurd behind notBehind

theorem NoLater.refl (counts : List Nat) : NoLater counts counts :=
  .inl (List.prefix_refl counts)

theorem NoLater.antisymm (first : NoLater counts others) (second : NoLater others counts) :
    counts = others := by
  rcases noLater_iff.mp first with same | before
  · exact same
  · exact absurd before second.not_precedes

theorem Precedes.trans_noLater (first : Precedes counts others) (second : NoLater others later) :
    Precedes counts later := by
  rcases noLater_iff.mp second with rfl | second
  · exact first
  · exact first.trans second

theorem NoLater.trans (first : NoLater counts others) (second : NoLater others later) :
    NoLater counts later := by
  rcases noLater_iff.mp first with rfl | first
  · exact second
  · exact noLater_iff.mpr (.inr (first.trans_noLater second))

/-- Between counts and others that first differ from them behind `front`, there are only
such as go on from `front` with a larger count. -/
theorem exists_between (behind : Precedes (front ++ rest) others)
    (before : Precedes others (front ++ [count])) :
    ∃ more further, others = front ++ more :: further ∧ count < more ∧
      Precedes rest (more :: further) := by
  induction front generalizing others with
  | nil =>
      cases before with
      | nil => cases behind
      | rel larger => exact ⟨_, _, rfl, larger, behind⟩
      | cons nothing => cases nothing
  | cons head front ih =>
      cases before with
      | nil => cases behind
      | rel larger =>
          cases behind with
          | rel smaller => exact absurd larger (Nat.lt_asymm smaller)
          | cons _ => exact absurd larger (Nat.lt_irrefl _)
      | cons before =>
          cases behind with
          | rel smaller => exact absurd smaller (Nat.lt_irrefl _)
          | cons behind =>
              obtain ⟨more, further, rfl, larger, rest⟩ := ih behind before
              exact ⟨more, further, rfl, larger, rest⟩

end Order

section Partial

variable {pattern : Pattern} {subject : Array Char} {start offset count : Nat}
  {operator : Operator} {front later : List Operator} {counts rest : List Nat}

theorem Pattern.PartialAssignment.of_assigns
    (assigned : Assigns subject front start counts offset)
    (split : front ++ later = pattern.operators) :
    pattern.PartialAssignment subject start counts := by
  have sameLength := assigned.length_eq
  constructor
  · rw [Pattern.size, ← split, List.length_append, sameLength]
    exact Nat.le_add_right _ _
  · intro index operator count named counted
    obtain ⟨inCounts, rfl⟩ := List.getElem?_eq_some_iff.mp counted
    have inFront : index < front.length := sameLength ▸ inCounts
    rw [← split, List.getElem?_append_left inFront, List.getElem?_eq_getElem inFront] at named
    rw [← Option.some.inj named]
    exact assigned.takes_getElem index inFront inCounts

/-- What the next operator takes, if counts go on from an assignment of those before. -/
theorem Pattern.PartialAssignment.takes_next
    (given : pattern.PartialAssignment subject start (counts ++ count :: rest))
    (assigned : Assigns subject front start counts offset)
    (split : front ++ operator :: later = pattern.operators) :
    operator.Takes subject offset count := by
  have named : pattern.operators[counts.length]? = some operator := by
    rw [← split, assigned.length_eq, List.getElem?_append_right (Nat.le_refl _), Nat.sub_self]
    rfl
  have counted : (counts ++ count :: rest)[counts.length]? = some count := by
    rw [List.getElem?_append_right (Nat.le_refl _), Nat.sub_self]
    rfl
  have taken := given.takes counts.length operator count named counted
  rwa [List.take_left, ← assigned.stop_eq] at taken

/-- `next` is the partial assignment right behind `counts`. -/
structure Pattern.FollowedBy (pattern : Pattern) (subject : Array Char) (start : Nat)
    (counts next : List Nat) : Prop where
  assignment : pattern.PartialAssignment subject start next
  before : Precedes counts next
  none_between : ∀ others, pattern.PartialAssignment subject start others →
    Precedes counts others → NoLater next others

/-- Counts are followed by those with the largest next count. -/
theorem Pattern.FollowedBy.of_largest
    (assignment : pattern.PartialAssignment subject start (counts ++ [count]))
    (largest : ∀ more rest,
      pattern.PartialAssignment subject start (counts ++ more :: rest) → more ≤ count) :
    pattern.FollowedBy subject start counts (counts ++ [count]) := by
  refine ⟨assignment, .append_cons counts count [], ?_⟩
  intro others given behind
  apply noLater_of_not_precedes
  intro before
  rw [← List.append_nil counts] at behind
  obtain ⟨more, further, rfl, larger, -⟩ := exists_between behind before
  exact absurd (largest more further given) (Nat.not_le_of_lt larger)

/-- Of the partial assignments that go on from `front`, `counts` is one, and none comes
behind it. -/
structure Pattern.Passed (pattern : Pattern) (subject : Array Char) (start : Nat)
    (front counts : List Nat) : Prop where
  starts : front <+: counts
  none_behind : ∀ others, pattern.PartialAssignment subject start others →
    front <+: others → ¬Precedes counts others

namespace Pattern.Passed

variable {front : List Nat}

theorem refl
    (none_next : ∀ count rest,
      ¬pattern.PartialAssignment subject start (counts ++ count :: rest)) :
    pattern.Passed subject start counts counts := by
  refine ⟨List.prefix_refl counts, ?_⟩
  intro others assignment further
  obtain ⟨rest, rfl⟩ := further
  cases rest with
  | nil =>
      rw [List.append_nil]
      exact Precedes.irrefl counts
  | cons count rest => exact absurd assignment (none_next count rest)

/-- Counts have been passed with their last one, if that is the smallest there. -/
theorem dropLast (passed : pattern.Passed subject start (front ++ [count]) counts)
    (smallest : ∀ more rest,
      pattern.PartialAssignment subject start (front ++ more :: rest) → count ≤ more) :
    pattern.Passed subject start front counts := by
  have shorter : front <+: counts := (List.prefix_append _ _).trans passed.starts
  refine ⟨shorter, ?_⟩
  intro others assignment further
  obtain ⟨rest, rfl⟩ := further
  cases rest with
  | nil =>
      rw [List.append_nil]
      exact NoLater.not_precedes (.inl shorter)
  | cons more rest =>
      rcases Nat.eq_or_lt_of_le (smallest more rest assignment) with rfl | larger
      · apply passed.none_behind _ assignment
        simp
      · obtain ⟨behind, rfl⟩ := passed.starts
        apply NoLater.not_precedes
        exact .inr ⟨front, more, count, rest, behind, rfl, by simp, larger⟩

/-- When everything with one repetition more has been passed, it is given back. -/
theorem followedBy (passed : pattern.Passed subject start (front ++ [count + 1]) counts)
    (assignment : pattern.PartialAssignment subject start (front ++ [count])) :
    pattern.FollowedBy subject start counts (front ++ [count]) := by
  obtain ⟨⟨rest, rfl⟩, none_behind⟩ := passed
  rw [List.append_assoc, List.singleton_append] at none_behind ⊢
  refine ⟨assignment, ?_, ?_⟩
  · exact .of_exceeds ⟨front, count + 1, count, rest, [], rfl, rfl, Nat.lt_succ_self count⟩
  · intro others given behind
    apply noLater_of_not_precedes
    intro before
    obtain ⟨more, further, rfl, larger, rests⟩ := exists_between behind before
    have same : more = count + 1 := by
      cases rests with
      | rel smaller => omega
      | cons _ => rfl
    subst same
    apply none_behind _ given ?_ behind
    simp

end Pattern.Passed

end Partial

end PatternMatcher
