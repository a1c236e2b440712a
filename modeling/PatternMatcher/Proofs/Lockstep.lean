import Mathlib
import PatternMatcher.Proofs.StepLimit

/-!
# Searches in lockstep

Two searches that stand at two offsets of two subjects go on in the same way, if operator
by operator they have the same quantifiers and accept the characters at the same distances
from there.  Neither what stands before the two offsets nor which characters are accepted
is of any account.  They come to the same counts and spend the same steps on them
(`Search.inStep_tryFrom`).
-/

namespace PatternMatcher

/-- Two operators that take the same numbers of characters from two offsets on. -/
structure Operator.Alike (subject subject' : Array Char) (offset offset' : Nat)
    (operator other : Operator) : Prop where
  quantifier_eq : operator.quantifier = other.quantifier
  acceptsAt_eq : ∀ distance,
    operator.acceptsAt subject (offset + distance) = other.acceptsAt subject' (offset' + distance)

namespace Operator.Alike

variable {subject subject' : Array Char} {offset offset' : Nat} {operator other : Operator}

theorem move (alike : Alike subject subject' offset offset' operator other) (count : Nat) :
    Alike subject subject' (offset + count) (offset' + count) operator other := by
  refine ⟨alike.quantifier_eq, ?_⟩
  intro distance
  simpa only [Nat.add_assoc] using alike.acceptsAt_eq (count + distance)

theorem more_iff (alike : Alike subject subject' offset offset' operator other) (taken : Nat) :
    (operator.quantifier.allowsMore taken = true ∧ operator.acceptsAt subject offset = true) ↔
      other.quantifier.allowsMore taken = true ∧ other.acceptsAt subject' offset' = true := by
  have here : operator.acceptsAt subject offset = other.acceptsAt subject' offset' :=
    alike.acceptsAt_eq 0
  rw [alike.quantifier_eq, here]

theorem greedyCount_eq (alike : Alike subject subject' offset offset' operator other)
    (taken : Nat) :
    operator.greedyCount subject offset taken = other.greedyCount subject' offset' taken := by
  fun_induction Operator.greedyCount operator subject offset taken generalizing offset' with
  | case1 offset taken more ih =>
      have further : other.greedyCount subject' offset' taken =
          other.greedyCount subject' (offset' + 1) (taken + 1) := by
        rw [Operator.greedyCount, dif_pos ((alike.more_iff taken).mp more)]
      rw [further]
      exact ih (alike.move 1)
  | case2 offset taken stuck =>
      rw [Operator.greedyCount, dif_neg (mt (alike.more_iff taken).mpr stuck)]

end Operator.Alike

namespace Search

/-- Two searches with operators that do the same from two offsets on, and that may end at
the same distances from there. -/
structure Alike (search other : Search) (offset offset' : Nat)
    (operators others : List Operator) : Prop where
  operators : List.Forall₂ (Operator.Alike search.subject other.subject offset offset')
    operators others
  mayEndAt_eq : ∀ distance,
    search.mayEndAt (offset + distance) = other.mayEndAt (offset' + distance)

/-- Two searches that may spend the same number of steps yet. -/
def SameBudget (search other : Search) (spent spent' : Nat) : Prop :=
  ∀ more, search.exceededLimit? (spent + more) = other.exceededLimit? (spent' + more)

theorem SameBudget.later {search other : Search} {spent spent' later later' more : Nat}
    (budget : SameBudget search other spent spent') (steps : later = spent + more)
    (steps' : later' = spent' + more) : SameBudget search other later later' := by
  intro further
  rw [steps, steps']
  simpa only [Nat.add_assoc] using budget (more + further)

/-- Two results that are the same and have taken the same number of steps. -/
structure InStep {α : Type} (spent spent' : Nat)
    (result result' : Except SearchError α × Account) : Prop where
  same : result.1 = result'.1
  steps_eq : ∃ more, result.2.steps = spent + more ∧ result'.2.steps = spent' + more

theorem InStep.behind {α : Type} {spent spent' later later' more : Nat}
    {result result' : Except SearchError α × Account} (inStep : InStep later later' result result')
    (steps : later = spent + more) (steps' : later' = spent' + more) :
    InStep spent spent' result result' := by
  obtain ⟨same, further, total, total'⟩ := inStep
  refine ⟨same, more + further, ?_, ?_⟩
  · rw [total, steps, Nat.add_assoc]
  · rw [total', steps', Nat.add_assoc]

variable {search other : Search} {account account' : Account}

theorem inStep_tick {result : Except SearchError (Option (List Nat))} {after after' : Account}
    (steps : after.steps = account.steps + 1) (steps' : after'.steps = account'.steps + 1) :
    InStep account.steps account'.steps (result, after) (result, after') :=
  ⟨rfl, 1, steps, steps'⟩

section Counts

variable {attempt attempt' : Nat → Account → Choice} {index min : Nat}

/-- What follows on the attempts with one count, when it does so in step for fewer. -/
theorem inStep_afterCount {count : Nat} {choice choice' : Choice}
    (both : InStep account.steps account'.steps choice choice')
    (budget : SameBudget search other account.steps account'.steps)
    (fewerTried : ∀ fewer, count = fewer + 1 → ∀ (later later' : Account),
      SameBudget search other later.steps later'.steps →
      InStep later.steps later'.steps (tryCounts attempt index min fewer later)
        (tryCounts attempt' index min fewer later')) :
    InStep account.steps account'.steps (afterCount attempt index min count choice)
      (afterCount attempt' index min count choice') := by
  obtain ⟨result, spent⟩ := choice
  obtain ⟨result', spent'⟩ := choice'
  obtain ⟨same, more, steps, steps'⟩ := both
  cases same
  rcases result with error | none | counts
  · exact ⟨rfl, more, steps, steps'⟩
  · cases count with
    | zero => exact ⟨rfl, more, steps, steps'⟩
    | succ fewer =>
        rw [afterCount, afterCount]
        split
        · exact ⟨rfl, more, steps, steps'⟩
        · have noted : (spent.note (.gaveBack index fewer)).steps = account.steps + more := steps
          have noted' : (spent'.note (.gaveBack index fewer)).steps =
              account'.steps + more := steps'
          apply InStep.behind ?_ noted noted'
          exact fewerTried fewer rfl _ _ (budget.later noted noted')
  · exact ⟨rfl, more, steps, steps'⟩

variable (search other) in
theorem inStep_tryCounts
    (attempts : ∀ (count : Nat) (account account' : Account),
      SameBudget search other account.steps account'.steps →
      InStep account.steps account'.steps (attempt count account) (attempt' count account'))
    (count : Nat) (budget : SameBudget search other account.steps account'.steps) :
    InStep account.steps account'.steps (tryCounts attempt index min count account)
      (tryCounts attempt' index min count account') := by
  induction count generalizing account account' with
  | zero =>
      rw [tryCounts_eq_afterCount, tryCounts_eq_afterCount]
      exact inStep_afterCount (attempts 0 account account' budget) budget nofun
  | succ fewer ih =>
      rw [tryCounts_eq_afterCount, tryCounts_eq_afterCount]
      apply inStep_afterCount (attempts (fewer + 1) account account' budget) budget
      intro fewer' same later later' budget'
      cases same
      exact ih budget'

end Counts

theorem Alike.later {operator operator' : Operator} {operators others : List Operator}
    {offset offset' : Nat}
    (alike : Alike search other offset offset' (operator :: operators) (operator' :: others))
    (count : Nat) : Alike search other (offset + count) (offset' + count) operators others := by
  obtain ⟨operatorsAlike, endsAlike⟩ := alike
  constructor
  · cases operatorsAlike with
    | cons _ later => exact later.imp fun _ _ alike => alike.move count
  · intro distance
    simpa only [Nat.add_assoc] using endsAlike (count + distance)

theorem inStep_tryFrom_of_exceeded {operators others : List Operator}
    {index offset offset' limit : Nat}
    (exceeded : search.exceededLimit? (account.steps + 1) = some limit)
    (exceeded' : other.exceededLimit? (account'.steps + 1) = some limit) :
    InStep account.steps account'.steps (search.tryFrom operators index offset account)
      (other.tryFrom others index offset' account') := by
  rw [tryFrom_of_exceeded exceeded, tryFrom_of_exceeded exceeded']
  exact inStep_tick rfl rfl

/-- Two searches that are alike from two offsets on match with the same counts. -/
theorem inStep_tryFrom {operators others : List Operator} {offset offset' : Nat}
    (alike : Alike search other offset offset' operators others) (index : Nat)
    (budget : SameBudget search other account.steps account'.steps) :
    InStep account.steps account'.steps (search.tryFrom operators index offset account)
      (other.tryFrom others index offset' account') := by
  induction operators generalizing others index offset offset' account account' with
  | nil =>
      obtain rfl : others = [] := List.forall₂_nil_left_iff.mp alike.operators
      cases allowed : search.exceededLimit? (account.steps + 1) with
      | some limit => exact inStep_tryFrom_of_exceeded allowed ((budget 1).symm.trans allowed)
      | none =>
          have allowed' := (budget 1).symm.trans allowed
          have ends : search.mayEndAt offset = other.mayEndAt offset' := alike.mayEndAt_eq 0
          cases ending : search.mayEndAt offset with
          | true =>
              have ending' := ends.symm.trans ending
              rw [tryFrom_nil_of_mayEnd allowed ending, tryFrom_nil_of_mayEnd allowed' ending']
              exact inStep_tick rfl rfl
          | false =>
              have ending' := ends.symm.trans ending
              rw [tryFrom_nil_of_not_mayEnd allowed ending,
                tryFrom_nil_of_not_mayEnd allowed' ending']
              exact inStep_tick rfl rfl
  | cons operator later ih =>
      obtain ⟨operator', later', same, -, rfl⟩ := List.forall₂_cons_left_iff.mp alike.operators
      cases allowed : search.exceededLimit? (account.steps + 1) with
      | some limit => exact inStep_tryFrom_of_exceeded allowed ((budget 1).symm.trans allowed)
      | none =>
          have allowed' := (budget 1).symm.trans allowed
          have counts := same.greedyCount_eq 0
          have mins : operator.min = operator'.min := congrArg Quantifier.min same.quantifier_eq
          by_cases tooFew : operator.greedyCount search.subject offset 0 < operator.min
          · have tooFew' : operator'.greedyCount other.subject offset' 0 < operator'.min := by
              rwa [← counts, ← mins]
            rw [tryFrom_cons_of_lt allowed tooFew, tryFrom_cons_of_lt allowed' tooFew']
            exact inStep_tick rfl rfl
          · have enough := Nat.le_of_not_lt tooFew
            have enough' : operator'.min ≤ operator'.greedyCount other.subject offset' 0 := by
              rwa [← counts, ← mins]
            rw [tryFrom_cons_of_le allowed enough, tryFrom_cons_of_le allowed' enough',
              ← counts, ← mins]
            have ticked : account.tick.steps = account.steps + 1 := rfl
            have ticked' : account'.tick.steps = account'.steps + 1 := rfl
            apply InStep.behind ?_ ticked ticked'
            apply inStep_tryCounts search other
            · intro count account account' budget
              exact ih (alike.later count) (index + 1) budget
            · exact budget.later ticked ticked'

end Search

end PatternMatcher
