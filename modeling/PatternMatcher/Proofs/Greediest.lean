import Mathlib
import PatternMatcher.Proofs.Assignment
import PatternMatcher.Proofs.Recursion

/-!
# The greediest assignment

`Greediest` says, operator by operator, that no larger count leaves the rest of
the pattern a way to end.  Since every repetition takes one character, an
assignment that begins no later can nowhere be ahead of a greediest one: at the
operator that overtook it, the larger count would have been possible
(`sum_take_le`).  Hence a greediest assignment ends last (`stop_le`) and has the
lexicographically greatest counts (`counts_le`).  `decides_tryFrom` says that
the recursion finds it.
-/

namespace PatternMatcher

/-- Operators can be given counts from an offset on, so that they end where they may. -/
def Completable (subject : Array Char) (mayEnd : Nat → Prop)
    (operators : List Operator) (start : Nat) : Prop :=
  ∃ counts stop, Assigns subject operators start counts stop ∧ mayEnd stop

/-- Each operator has the largest count with which the operators behind it can
be completed. -/
inductive Greediest (subject : Array Char) (mayEnd : Nat → Prop) :
    List Operator → Nat → List Nat → Nat → Prop where
  | nil {offset : Nat} : mayEnd offset → Greediest subject mayEnd [] offset [] offset
  | cons {operator : Operator} {later : List Operator} {offset count stop : Nat}
      {counts : List Nat} :
      operator.Takes subject offset count →
      (∀ more, count < more → operator.Takes subject offset more →
        ¬Completable subject mayEnd later (offset + more)) →
      Greediest subject mayEnd later (offset + count) counts stop →
      Greediest subject mayEnd (operator :: later) offset (count :: counts) stop

variable {subject : Array Char} {mayEnd : Nat → Prop} {operator : Operator}
  {operators later : List Operator} {offset start stop : Nat} {counts : List Nat}

theorem Operator.Takes.from_later {other count otherCount : Nat}
    (taken : operator.Takes subject other otherCount) (before : other ≤ offset)
    (same : offset + count = other + otherCount) (enough : operator.min ≤ count) :
    operator.Takes subject offset count := by
  refine ⟨enough, ?_, ?_⟩
  · intro max bound
    have fits := taken.le_max max bound
    omega
  · intro position after inside
    exact taken.accepted position (by omega) (by omega)

namespace Greediest

theorem assigns (greediest : Greediest subject mayEnd operators start counts stop) :
    Assigns subject operators start counts stop := by
  induction greediest with
  | nil _ => exact .nil _
  | cons taken _ _ ih => exact .cons taken ih

theorem mayEnd_stop (greediest : Greediest subject mayEnd operators start counts stop) :
    mayEnd stop := by
  induction greediest with
  | nil ending => exact ending
  | cons _ _ _ ih => exact ih

theorem completable (greediest : Greediest subject mayEnd operators start counts stop) :
    Completable subject mayEnd operators start :=
  ⟨counts, stop, greediest.assigns, greediest.mayEnd_stop⟩

/-- An assignment that begins no later is at no operator ahead of the greediest one. -/
theorem sum_take_le {other otherStop : Nat} {others : List Nat}
    (greediest : Greediest subject mayEnd operators start counts stop)
    (before : other ≤ start)
    (assigned : Assigns subject operators other others otherStop)
    (ending : mayEnd otherStop) (index : Nat) :
    other + (others.take index).sum ≤ start + (counts.take index).sum := by
  induction greediest generalizing other others index with
  | nil _ =>
      obtain ⟨rfl, rfl⟩ := Assigns.nil_iff.mp assigned
      rw [List.take_nil]
      exact Nat.add_le_add_right before _
  | @cons operator later offset count stop counts taken largest _ ih =>
      obtain ⟨otherCount, rest, rfl, otherTaken, restAssigned⟩ := Assigns.cons_iff.mp assigned
      have behind : other + otherCount ≤ offset + count := by
        apply Nat.le_of_not_lt
        intro ahead
        -- The overtaking operator could have gone as far from the later offset.
        have reached : offset + (other + otherCount - offset) = other + otherCount := by
          omega
        have more : count < other + otherCount - offset := by omega
        have enough : operator.min ≤ other + otherCount - offset :=
          Nat.le_trans taken.min_le (Nat.le_of_lt more)
        apply largest _ more (otherTaken.from_later before reached enough)
        rw [reached]
        exact ⟨rest, otherStop, restAssigned, ending⟩
      cases index with
      | zero => exact before
      | succ index =>
          have later := ih behind restAssigned index
          rw [List.take_succ_cons, List.take_succ_cons, List.sum_cons, List.sum_cons,
            ← Nat.add_assoc, ← Nat.add_assoc]
          exact later

theorem stop_le {others : List Nat} {otherStop : Nat}
    (greediest : Greediest subject mayEnd operators start counts stop)
    (assigned : Assigns subject operators start others otherStop)
    (ending : mayEnd otherStop) : otherStop ≤ stop := by
  have sameLength : others.length = counts.length :=
    assigned.length_eq.trans greediest.assigns.length_eq.symm
  have whole := greediest.sum_take_le (Nat.le_refl _) assigned ending others.length
  rw [assigned.stop_eq, greediest.assigns.stop_eq]
  rwa [List.take_length, sameLength, List.take_length] at whole

end Greediest

theorem le_of_sum_take_le {others : List Nat} (sameLength : others.length = counts.length)
    (pointwise : ∀ index, (others.take index).sum ≤ (counts.take index).sum) :
    others ≤ counts := by
  induction others generalizing counts with
  | nil =>
      have empty : counts = [] := List.length_eq_zero_iff.mp sameLength.symm
      exact le_of_eq empty.symm
  | cons other rest ih =>
      cases counts with
      | nil => cases sameLength
      | cons count counts =>
          have first : other ≤ count := by simpa using pointwise 1
          rcases Nat.lt_or_eq_of_le first with less | same
          · exact le_of_lt (List.Lex.rel less)
          · subst same
            apply List.cons_le_cons
            apply ih (Nat.succ.inj sameLength)
            intro index
            have later := pointwise (index + 1)
            rw [List.take_succ_cons, List.take_succ_cons, List.sum_cons, List.sum_cons] at later
            exact Nat.le_of_add_le_add_left later

theorem Greediest.counts_le {others : List Nat} {otherStop : Nat}
    (greediest : Greediest subject mayEnd operators start counts stop)
    (assigned : Assigns subject operators start others otherStop)
    (ending : mayEnd otherStop) : others ≤ counts := by
  apply le_of_sum_take_le
  · exact assigned.length_eq.trans greediest.assigns.length_eq.symm
  · intro index
    exact Nat.le_of_add_le_add_left
      (greediest.sum_take_le (Nat.le_refl _) assigned ending index)

/-- What the recursion may answer for operators that begin at an offset. -/
inductive Search.Decides (search : Search) (operators : List Operator) (offset : Nat) :
    Except SearchError (Option (List Nat)) → Prop where
  | found {counts : List Nat} {stop : Nat} :
      Greediest search.subject (search.mayEndAt · = true) operators offset counts stop →
      search.Decides operators offset (.ok (some counts))
  | missing :
      ¬Completable search.subject (search.mayEndAt · = true) operators offset →
      search.Decides operators offset (.ok none)
  | exceeded {limit : Nat} :
      search.stepLimit = some limit →
      search.Decides operators offset (.error (.stepLimitExceeded limit))

namespace Search

variable {search : Search} {index : Nat} {account : Account}

theorem not_completable_cons
    (none : ∀ count, operator.Takes subject offset count →
      ¬Completable subject mayEnd later (offset + count)) :
    ¬Completable subject mayEnd (operator :: later) offset := by
  intro completable
  obtain ⟨counts, stop, assigned, ending⟩ := completable
  obtain ⟨count, rest, -, taken, restAssigned⟩ := Assigns.cons_iff.mp assigned
  exact none count taken ⟨rest, stop, restAssigned, ending⟩

theorem not_completable_of_le {count : Nat}
    (stuck : ¬Completable subject mayEnd later (offset + count))
    (largest : ∀ more, count < more → operator.Takes subject offset more →
      ¬Completable subject mayEnd later (offset + more)) :
    ∀ more, count ≤ more → operator.Takes subject offset more →
      ¬Completable subject mayEnd later (offset + more) := by
  intro more above taken
  rcases Nat.eq_or_lt_of_le above with same | above
  · exact same ▸ stuck
  · exact largest more above taken

theorem decides_tryCounts {attempt : Nat → Account → Choice} {count : Nat}
    (attempts : ∀ count account, search.Decides later (offset + count) (attempt count account).1)
    (enough : operator.min ≤ count)
    (reach : count ≤ operator.greedyCount search.subject offset 0)
    (largest : ∀ more, count < more → operator.Takes search.subject offset more →
      ¬Completable search.subject (search.mayEndAt · = true) later (offset + more)) :
    search.Decides (operator :: later) offset
      (tryCounts attempt index operator.min count account).1 := by
  have attempt' := attempts count account
  have taken : operator.Takes search.subject offset count :=
    Operator.takes_iff.mpr ⟨enough, reach⟩
  fun_induction tryCounts attempt index operator.min count account with
  | case1 count account error spent attempted =>
      rw [attempted] at attempt'
      cases attempt' with
      | exceeded limited => exact .exceeded limited
  | case2 count account counts spent attempted =>
      rw [attempted] at attempt'
      cases attempt' with
      | found greediest => exact .found (.cons taken largest greediest)
  | case3 account spent attempted =>
      rw [attempted] at attempt'
      cases attempt' with
      | missing stuck =>
          apply Decides.missing
          apply not_completable_cons
          intro count taken
          exact not_completable_of_le stuck largest count (Nat.zero_le _) taken
  | case4 account spent fewer bare attempted =>
      rw [attempted] at attempt'
      cases attempt' with
      | missing stuck =>
          apply Decides.missing
          apply not_completable_cons
          intro count taken
          exact not_completable_of_le stuck largest count
            (Nat.le_trans bare taken.min_le) taken
  | case5 account spent fewer spare attempted ih =>
      rw [attempted] at attempt'
      cases attempt' with
      | missing stuck =>
          have enough' : operator.min ≤ fewer := by omega
          have reach' : fewer ≤ operator.greedyCount search.subject offset 0 := by omega
          exact ih enough' reach' (not_completable_of_le stuck largest) (attempts _ _)
            (Operator.takes_iff.mpr ⟨enough', reach'⟩)

/-- The recursion finds the greediest assignment, or there is no assignment. -/
theorem decides_tryFrom (search : Search) (operators : List Operator) (index offset : Nat)
    (account : Account) :
    search.Decides operators offset (search.tryFrom operators index offset account).1 := by
  induction operators generalizing index offset account with
  | nil =>
      cases allowed : search.exceededLimit? (account.steps + 1) with
      | some limit =>
          rw [tryFrom_of_exceeded allowed]
          exact .exceeded (Option.filter_eq_some_iff.mp allowed).1
      | none =>
          cases ending : search.mayEndAt offset with
          | true =>
              rw [tryFrom_nil_of_mayEnd allowed ending]
              exact .found (.nil ending)
          | false =>
              rw [tryFrom_nil_of_not_mayEnd allowed ending]
              apply Decides.missing
              intro completable
              obtain ⟨counts, stop, assigned, ending'⟩ := completable
              obtain ⟨-, rfl⟩ := Assigns.nil_iff.mp assigned
              rw [ending] at ending'
              cases ending'
  | cons operator later ih =>
      cases allowed : search.exceededLimit? (account.steps + 1) with
      | some limit =>
          rw [tryFrom_of_exceeded allowed]
          exact .exceeded (Option.filter_eq_some_iff.mp allowed).1
      | none =>
          by_cases tooFew : operator.greedyCount search.subject offset 0 < operator.min
          · rw [tryFrom_cons_of_lt allowed tooFew]
            apply Decides.missing
            apply not_completable_cons
            intro count taken
            have bounds := Operator.takes_iff.mp taken
            omega
          · rw [tryFrom_cons_of_le allowed (Nat.le_of_not_lt tooFew)]
            apply decides_tryCounts
            · intro count account
              exact ih _ _ _
            · exact Nat.le_of_not_lt tooFew
            · exact Nat.le_refl _
            · intro more above taken
              have bounds := Operator.takes_iff.mp taken
              omega

end Search

end PatternMatcher
