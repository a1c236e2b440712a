import Mathlib
import PatternMatcher.Proofs.Greediest

/-!
# Operators in two parts

An assignment of operators that come in two parts is an assignment of the first part and,
behind it, one of the second.  The greediest assignment of all of them is the greediest one
of the first part, among those behind which the second part can be completed, and the
greediest one of the second part from there on (`Greediest.append_iff`).  So the second part
has no other say in the choice for the first than where it can be completed.
-/

namespace PatternMatcher

variable {subject : Array Char} {mayEnd mayEnd' : Nat → Prop}
  {operators front back : List Operator} {start stop : Nat} {counts : List Nat}

theorem Assigns.append_iff :
    Assigns subject (front ++ back) start counts stop ↔
      ∃ first second middle, counts = first ++ second ∧
        Assigns subject front start first middle ∧ Assigns subject back middle second stop := by
  constructor
  · intro assigned
    induction front generalizing start counts with
    | nil => exact ⟨[], counts, start, rfl, .nil start, assigned⟩
    | cons operator front ih =>
        obtain ⟨count, rest, rfl, taken, later⟩ := Assigns.cons_iff.mp assigned
        obtain ⟨first, second, middle, rfl, before, after⟩ := ih later
        exact ⟨count :: first, second, middle, rfl, .cons taken before, after⟩
  · intro parts
    obtain ⟨first, second, middle, rfl, before, after⟩ := parts
    exact before.append after

theorem completable_append_iff :
    Completable subject mayEnd (front ++ back) start ↔
      Completable subject (Completable subject mayEnd back) front start := by
  constructor
  · intro completable
    obtain ⟨counts, stop, assigned, ending⟩ := completable
    obtain ⟨first, second, middle, -, before, after⟩ := Assigns.append_iff.mp assigned
    exact ⟨first, middle, before, second, stop, after, ending⟩
  · intro completable
    obtain ⟨first, middle, before, second, stop, after, ending⟩ := completable
    exact ⟨first ++ second, stop, before.append after, ending⟩

theorem Greediest.append_iff :
    Greediest subject mayEnd (front ++ back) start counts stop ↔
      ∃ first second middle, counts = first ++ second ∧
        Greediest subject (Completable subject mayEnd back) front start first middle ∧
        Greediest subject mayEnd back middle second stop := by
  constructor
  · intro greediest
    induction front generalizing start counts with
    | nil => exact ⟨[], counts, start, rfl, .nil greediest.completable, greediest⟩
    | cons operator front ih =>
        rw [List.cons_append] at greediest
        cases greediest with
        | cons taken largest later =>
            obtain ⟨first, second, middle, rfl, before, after⟩ := ih later
            refine ⟨_ :: first, second, middle, rfl, .cons taken ?_ before, after⟩
            intro more above takes completable
            exact largest more above takes (completable_append_iff.mpr completable)
  · intro parts
    obtain ⟨first, second, middle, rfl, before, after⟩ := parts
    induction before with
    | nil _ => exact after
    | cons taken largest _ ih =>
        refine .cons taken ?_ (ih after)
        intro more above takes completable
        exact largest more above takes (completable_append_iff.mp completable)

theorem Operator.Takes.add_le {operator : Operator} {count : Nat}
    (taken : operator.Takes subject start count) (inside : start ≤ subject.size) :
    start + count ≤ subject.size :=
  (Assigns.cons taken (.nil _)).stop_le inside

section Endings

variable (same : ∀ offset, offset ≤ subject.size → (mayEnd offset ↔ mayEnd' offset))

include same

/-- Only offsets of the subject are ends. -/
theorem completable_congr (inside : start ≤ subject.size) :
    Completable subject mayEnd operators start ↔
      Completable subject mayEnd' operators start := by
  constructor
  · intro completable
    obtain ⟨counts, stop, assigned, ending⟩ := completable
    exact ⟨counts, stop, assigned, (same stop (assigned.stop_le inside)).mp ending⟩
  · intro completable
    obtain ⟨counts, stop, assigned, ending⟩ := completable
    exact ⟨counts, stop, assigned, (same stop (assigned.stop_le inside)).mpr ending⟩

theorem Greediest.congr (inside : start ≤ subject.size)
    (greediest : Greediest subject mayEnd operators start counts stop) :
    Greediest subject mayEnd' operators start counts stop := by
  induction greediest with
  | nil ending => exact .nil ((same _ inside).mp ending)
  | cons taken largest _ ih =>
      refine .cons taken ?_ (ih (taken.add_le inside))
      intro more above takes completable
      apply largest more above takes
      exact (completable_congr same (takes.add_le inside)).mpr completable

end Endings

end PatternMatcher
