import PatternMatcher.Pattern.Basic

/-!
# Assignments

What a pattern means, without a search: an assignment gives every operator a
number of repetitions within its bounds, so that the operators share out a
stretch of the subject whose characters they accept.  A part of a subject
matches if some assignment covers it.
-/

namespace PatternMatcher

/-- `Operator.Takes operator subject offset count` says that an operator may
take the `count` characters from an offset on. -/
structure Operator.Takes (operator : Operator) (subject : Array Char)
    (offset count : Nat) : Prop where
  min_le : operator.min ≤ count
  le_max : ∀ max, operator.max? = some max → count ≤ max
  accepted : ∀ position, offset ≤ position → position < offset + count →
    operator.acceptsAt subject position = true

/-- `Assigns subject operators start counts stop` says that operators may take
the given numbers of characters one after another, from `start` to `stop`. -/
inductive Assigns (subject : Array Char) :
    List Operator → Nat → List Nat → Nat → Prop where
  | nil (offset : Nat) : Assigns subject [] offset [] offset
  | cons {operator : Operator} {operators : List Operator}
      {offset count stop : Nat} {counts : List Nat} :
      operator.Takes subject offset count →
      Assigns subject operators (offset + count) counts stop →
      Assigns subject (operator :: operators) offset (count :: counts) stop

namespace Assigns

theorem length_eq {subject : Array Char} {operators : List Operator}
    {start stop : Nat} {counts : List Nat}
    (assigned : Assigns subject operators start counts stop) :
    counts.length = operators.length := by
  induction assigned with
  | nil offset => rfl
  | cons _ _ ih => rw [List.length_cons, List.length_cons, ih]

theorem stop_le {subject : Array Char} {operators : List Operator}
    {start stop : Nat} {counts : List Nat}
    (assigned : Assigns subject operators start counts stop)
    (within : start ≤ subject.size) : stop ≤ subject.size := by
  induction assigned with
  | nil offset => exact within
  | @cons operator operators offset count stop counts taken _ ih =>
      apply ih
      cases count with
      | zero => exact within
      | succ count =>
          have last := Operator.lt_size_of_acceptsAt
            (taken.accepted (offset + count) (Nat.le_add_right _ _) (by omega))
          omega

theorem append {subject : Array Char} {front back : List Operator}
    {start middle stop : Nat} {first second : List Nat}
    (before : Assigns subject front start first middle)
    (after : Assigns subject back middle second stop) :
    Assigns subject (front ++ back) start (first ++ second) stop := by
  induction before with
  | nil offset => exact after
  | cons taken _ ih => exact .cons taken (ih after)

end Assigns

namespace Operator

theorem acceptsAt_of_lt_greedyCount {operator : Operator} {subject : Array Char}
    {offset taken position : Nat} (after : offset ≤ position)
    (before : position + taken < offset + operator.greedyCount subject offset taken) :
    operator.acceptsAt subject position = true := by
  fun_induction greedyCount operator subject offset taken with
  | case1 offset taken more ih =>
      rcases Nat.eq_or_lt_of_le after with same | later
      · exact same ▸ more.2
      · exact ih later (by omega)
  | case2 offset taken stuck => omega

theorem not_more_of_greedyCount {operator : Operator} {subject : Array Char}
    {offset taken count : Nat} (run : operator.greedyCount subject offset taken = taken + count) :
    ¬(operator.quantifier.allowsMore (taken + count) = true ∧
      operator.acceptsAt subject (offset + count) = true) := by
  fun_induction greedyCount operator subject offset taken generalizing count with
  | case1 offset taken more ih =>
      cases count with
      | zero =>
          have lower : taken + 1 ≤ operator.greedyCount subject (offset + 1) (taken + 1) := by
            exact le_greedyCount
          omega
      | succ count =>
          have rest := ih (by omega : _ = taken + 1 + count)
          rwa [Nat.add_assoc taken, Nat.add_comm 1, Nat.add_assoc offset,
            Nat.add_comm 1] at rest
  | case2 offset taken stuck =>
      have nothing : count = 0 := by omega
      subst nothing
      exact stuck

theorem greedyCount_le_max {operator : Operator} {subject : Array Char}
    {offset taken max : Nat} (bound : operator.max? = some max) (below : taken ≤ max) :
    operator.greedyCount subject offset taken ≤ max := by
  fun_induction greedyCount operator subject offset taken with
  | case1 offset taken more ih =>
      exact ih (Quantifier.allowsMore_iff.mp more.1 max bound)
  | case2 offset taken stuck => exact below

/-- The numbers of characters an operator may take are those from its minimum
up to what a greedy run takes. -/
theorem takes_iff {operator : Operator} {subject : Array Char} {offset count : Nat} :
    operator.Takes subject offset count ↔
      operator.min ≤ count ∧ count ≤ operator.greedyCount subject offset 0 := by
  constructor
  · intro taken
    refine ⟨taken.min_le, Nat.le_of_not_lt fun fewer => ?_⟩
    have stuck := not_more_of_greedyCount
      (Nat.zero_add (operator.greedyCount subject offset 0)).symm
    rw [Nat.zero_add] at stuck
    apply stuck
    constructor
    · exact Quantifier.allowsMore_iff.mpr fun max bound =>
        Nat.lt_of_lt_of_le fewer (taken.le_max max bound)
    · exact taken.accepted _ (Nat.le_add_right _ _) (Nat.add_lt_add_left fewer _)
  · rintro ⟨enough, reach⟩
    refine ⟨enough, fun max bound => ?_, fun position after before => ?_⟩
    · exact Nat.le_trans reach (greedyCount_le_max bound (Nat.zero_le _))
    · have within : position + 0 < offset + operator.greedyCount subject offset 0 := by
        omega
      exact acceptsAt_of_lt_greedyCount after within

end Operator

end PatternMatcher
