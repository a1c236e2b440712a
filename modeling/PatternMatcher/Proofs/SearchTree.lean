import Mathlib
import PatternMatcher.Proofs.StepLimit

/-!
# The tree that a search walks

Behind each number of characters that an operator may take stand all attempts for the
operators after it.  `Search.treeSize` counts them.  A search has spent exactly as many
steps when it fails, and no more than these in any case: `Search.Spends` says so of one
attempt and of attempts at one offset after another.
-/

namespace PatternMatcher

namespace Search

/-- The number of attempts to match operators at an offset when all of them fail: one that
runs the first operator, and for each count it may have those of the later operators. -/
def treeSize (subject : Array Char) : List Operator → Nat → Nat
  | [], _ => 1
  | operator :: later, offset =>
      1 + ∑ count ∈ Finset.Icc operator.min (operator.greedyCount subject offset 0),
        treeSize subject later (offset + count)

/-- No more steps than `size` have been spent, and exactly as many on finding nothing. -/
structure Spends {α : Type} (size : Nat) (before : Account)
    (result : Except SearchError (Option α) × Account) : Prop where
  steps_le : result.2.steps ≤ before.steps + size
  steps_eq : result.1 = .ok none → result.2.steps = before.steps + size

namespace Spends

variable {α : Type} {size more larger : Nat} {before between after : Account}
  {result : Except SearchError (Option α) × Account}

theorem of_failed (spent : after.steps = before.steps + size) :
    Spends size before (.ok (none : Option α), after) :=
  ⟨Nat.le_of_eq spent, fun _ => spent⟩

theorem of_error {error : SearchError} (spent : after.steps ≤ before.steps + size) :
    Spends size before ((.error error : Except SearchError (Option α)), after) :=
  ⟨spent, fun failed => by simp at failed⟩

theorem of_found {found : α} (spent : after.steps ≤ before.steps + size) :
    Spends size before (.ok (some found), after) :=
  ⟨spent, fun failed => by simp at failed⟩

theorem failed (spends : Spends size before (.ok (none : Option α), after)) :
    after.steps = before.steps + size :=
  spends.steps_eq rfl

theorem steps_le_of_le (spends : Spends size before result) (within : size ≤ larger) :
    result.2.steps ≤ before.steps + larger :=
  Nat.le_trans spends.steps_le (Nat.add_le_add_left within _)

/-- What comes behind something that has spent exactly `size` steps. -/
theorem behind (spends : Spends more between result)
    (spent : between.steps = before.steps + size) : Spends (size + more) before result := by
  constructor
  · have reach := spends.steps_le
    omega
  · intro failed
    have reach := spends.steps_eq failed
    omega

end Spends

section Counts

variable {attempt : Nat → Account → Choice} {size : Nat → Nat} {min : Nat}

/-- Trying counts spends what the attempts behind them spend together. -/
theorem spends_tryCounts
    (attempts : ∀ count account, Spends (size count) account (attempt count account))
    (index : Nat) {count : Nat} (account : Account) (enough : min ≤ count) :
    Spends (∑ fewer ∈ Finset.Icc min count, size fewer) account
      (tryCounts attempt index min count account) := by
  have tried := attempts count account
  have within : size count ≤ ∑ fewer ∈ Finset.Icc min count, size fewer :=
    Finset.single_le_sum (fun _ _ => Nat.zero_le _) (Finset.right_mem_Icc.mpr enough)
  fun_induction tryCounts attempt index min count account with
  | case1 count account error spent attempted =>
      rw [attempted] at tried
      exact .of_error (tried.steps_le_of_le within)
  | case2 count account counts spent attempted =>
      rw [attempted] at tried
      exact .of_found (tried.steps_le_of_le within)
  | case3 account spent attempted =>
      rw [attempted] at tried
      apply Spends.of_failed
      simp [tried.failed, Nat.le_zero.mp enough]
  | case4 account spent fewer bare attempted =>
      rw [attempted] at tried
      apply Spends.of_failed
      simp [tried.failed, Nat.le_antisymm enough bare]
  | case5 account spent fewer spare attempted ih =>
      rw [attempted] at tried
      have enough' : min ≤ fewer := by omega
      have later := ih enough' (attempts fewer _)
        (Finset.single_le_sum (fun _ _ => Nat.zero_le _) (Finset.right_mem_Icc.mpr enough'))
      have first : (spent.note (.gaveBack index fewer)).steps =
          account.steps + size (fewer + 1) := tried.failed
      rw [Nat.succ_eq_add_one, Finset.sum_Icc_succ_top enough, Nat.add_comm]
      exact later.behind first

end Counts

/-- Matching operators at an offset spends the size of their tree there. -/
theorem spends_tryFrom (search : Search) (operators : List Operator) (index offset : Nat)
    (account : Account) :
    Spends (treeSize search.subject operators offset) account
      (search.tryFrom operators index offset account) := by
  induction operators generalizing index offset account with
  | nil =>
      cases allowed : search.exceededLimit? (account.steps + 1) with
      | some limit =>
          rw [tryFrom_of_exceeded allowed]
          exact .of_error (Nat.le_refl _)
      | none =>
          cases ending : search.mayEndAt offset with
          | true =>
              rw [tryFrom_nil_of_mayEnd allowed ending]
              exact .of_found (Nat.le_refl _)
          | false =>
              rw [tryFrom_nil_of_not_mayEnd allowed ending]
              exact .of_failed rfl
  | cons operator later ih =>
      cases allowed : search.exceededLimit? (account.steps + 1) with
      | some limit =>
          rw [tryFrom_of_exceeded allowed]
          apply Spends.of_error
          simp [treeSize, Account.tick]
      | none =>
          by_cases tooFew : operator.greedyCount search.subject offset 0 < operator.min
          · rw [tryFrom_cons_of_lt allowed tooFew]
            apply Spends.of_failed
            simp [treeSize, tooFew, Account.tick, Account.note]
          · have enough := Nat.le_of_not_lt tooFew
            have counted := spends_tryCounts
              (fun count account => ih (index + 1) (offset + count) account)
              index account.tick enough
            rw [tryFrom_cons_of_le allowed enough, treeSize]
            exact counted.behind rfl

theorem spends_answer (search : Search) (pattern : Pattern) (start : Nat)
    (account : Account) :
    Spends (treeSize search.subject pattern.operators start) account
      (search.answer pattern start account) := by
  have spends := search.spends_tryFrom pattern.operators 0 start account
  rw [answer_eq_answerOf]
  generalize search.tryFrom pattern.operators 0 start account = choice at spends ⊢
  rcases choice with ⟨error | none | counts, spent⟩
  · exact .of_error spends.steps_le
  · exact .of_failed spends.failed
  · exact .of_found spends.steps_le

/-- The offsets of a search spend their steps one after the other. -/
theorem spends_answerEach (search : Search) (pattern : Pattern) (starts : List Nat)
    (account : Account) :
    Spends (starts.map (treeSize search.subject pattern.operators)).sum account
      (search.answerEach pattern starts account) := by
  induction starts generalizing account with
  | nil => exact .of_failed rfl
  | cons start later ih =>
      have first := search.spends_answer pattern start account
      rw [answerEach_eq_afterAnswer, List.map_cons, List.sum_cons]
      generalize search.answer pattern start account = decided at first ⊢
      have within := Nat.le_add_right (treeSize search.subject pattern.operators start)
        (later.map (treeSize search.subject pattern.operators)).sum
      rcases decided with ⟨error | none | found, spent⟩
      · exact .of_error (first.steps_le_of_le within)
      · exact (ih spent).behind first.failed
      · exact .of_found (first.steps_le_of_le within)

end Search

theorem SharpAt.eq_ite {α : Type} {call : Option Nat → Except SearchError α} {steps : Nat}
    (sharp : SharpAt call steps) (limit : Nat) :
    call (some limit) =
      if limit < steps then .error (.stepLimitExceeded limit) else call none := by
  split
  · next few => exact sharp.below limit few
  · next enough => exact sharp.reached limit (Nat.le_of_not_lt enough)

namespace Matcher

variable {pattern : Pattern} {subject : String}

/-- A call that finds nothing needs a limit of the size of its tree. -/
theorem fullMatch_of_missing (missing : pattern.unlimited.fullMatch subject = .ok none)
    (limit : Nat) :
    fullMatch { pattern, stepLimit := some limit } subject =
      if limit < Search.treeSize (chars subject) pattern.operators 0
      then .error (.stepLimitExceeded limit) else .ok none := by
  have sharp := sharpAt_fullMatch pattern subject
  have spends := (pattern.unlimited.search true (chars subject)).spends_answer pattern 0 .initial
  have spent : (pattern.unlimited.reportFullMatch (chars subject)).steps =
      0 + Search.treeSize (chars subject) pattern.operators 0 := by
    rw [reportFullMatch_eq]
    exact spends.steps_eq (fullMatch_eq _ _ ▸ missing)
  rw [spent, Nat.zero_add] at sharp
  rw [← missing]
  exact sharp.eq_ite limit

theorem find_of_missing (missing : pattern.unlimited.find subject = .ok none) (limit : Nat) :
    find { pattern, stepLimit := some limit } subject =
      if limit < ∑ start ∈ Finset.range (subject.length + 1),
        Search.treeSize (chars subject) pattern.operators start
      then .error (.stepLimitExceeded limit) else .ok none := by
  have sharp := sharpAt_find pattern subject
  have spends := (pattern.unlimited.search false (chars subject)).spends_answerEach pattern
    (List.range (subject.length + 1)) .initial
  have spent : (pattern.unlimited.reportFind (chars subject)).steps =
      0 + ∑ start ∈ Finset.range (subject.length + 1),
        Search.treeSize (chars subject) pattern.operators start := by
    rw [reportFind_eq, size_chars]
    rw [find_eq, ← List.range_eq_range'] at missing
    exact spends.steps_eq missing
  rw [spent, Nat.zero_add] at sharp
  rw [← missing]
  exact sharp.eq_ite limit

end Matcher

end PatternMatcher
