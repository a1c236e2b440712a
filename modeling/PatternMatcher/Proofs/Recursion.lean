import Mathlib
import PatternMatcher.Search.Recursive

/-!
# The turns of the recursion

One equation of `Search.tryFrom` for each thing a call can do: run out of
steps, reach the end of the pattern, find too few repetitions, or try counts.
And one of `Search.tryCounts` for each thing that can become of a count.
-/

namespace PatternMatcher

namespace Search

variable {search : Search} {operators later : List Operator} {operator : Operator}
  {index offset : Nat} {account : Account}

theorem tryFrom_of_exceeded {limit : Nat}
    (exceeded : search.exceededLimit? (account.steps + 1) = some limit) :
    search.tryFrom operators index offset account =
      (.error (.stepLimitExceeded limit), account.tick) := by
  cases operators with
  | nil => simp only [tryFrom, exceeded]
  | cons operator later => simp only [tryFrom, exceeded]

theorem tryFrom_nil_of_mayEnd
    (within : search.exceededLimit? (account.steps + 1) = none)
    (mayEnd : search.mayEndAt offset = true) :
    search.tryFrom [] index offset account = (.ok (some []), account.tick) := by
  simp only [tryFrom, within, mayEnd, if_true]

theorem tryFrom_nil_of_not_mayEnd
    (within : search.exceededLimit? (account.steps + 1) = none)
    (mayNotEnd : search.mayEndAt offset = false) :
    search.tryFrom [] index offset account = (.ok none, account.tick) := by
  simp only [tryFrom, within, mayNotEnd, Bool.false_eq_true, if_false]

theorem tryFrom_cons_of_lt
    (within : search.exceededLimit? (account.steps + 1) = none)
    (tooFew : operator.greedyCount search.subject offset 0 < operator.min) :
    search.tryFrom (operator :: later) index offset account =
      (.ok none, account.tick.note (.tooFew index operator
        (operator.greedyCount search.subject offset 0) offset)) := by
  simp only [tryFrom, within, tooFew, if_true]

theorem tryFrom_cons_of_le
    (within : search.exceededLimit? (account.steps + 1) = none)
    (enough : operator.min ≤ operator.greedyCount search.subject offset 0) :
    search.tryFrom (operator :: later) index offset account =
      tryCounts (fun count => search.tryFrom later (index + 1) (offset + count))
        index operator.min (operator.greedyCount search.subject offset 0)
        account.tick := by
  simp only [tryFrom, within, Nat.not_lt_of_le enough, if_false]

section Counts

variable {attempt : Nat → Account → Choice} {min count : Nat} {spent : Account}

theorem tryCounts_of_error {error : SearchError}
    (attempted : attempt count account = (.error error, spent)) :
    tryCounts attempt index min count account = (.error error, spent) := by
  rw [tryCounts, attempted]

theorem tryCounts_of_some {counts : List Nat}
    (attempted : attempt count account = (.ok (some counts), spent)) :
    tryCounts attempt index min count account = (.ok (some (count :: counts)), spent) := by
  rw [tryCounts, attempted]

theorem tryCounts_of_le (attempted : attempt count account = (.ok none, spent))
    (bare : count ≤ min) :
    tryCounts attempt index min count account = (.ok none, spent) := by
  rw [tryCounts, attempted]
  cases count with
  | zero => rfl
  | succ fewer => simp only [bare, if_true]

theorem tryCounts_of_lt (attempted : attempt (count + 1) account = (.ok none, spent))
    (spare : min < count + 1) :
    tryCounts attempt index min (count + 1) account =
      tryCounts attempt index min count (spent.note (.gaveBack index count)) := by
  rw [tryCounts, attempted]
  simp only [Nat.not_le_of_lt spare, if_false]

end Counts

end Search

end PatternMatcher
