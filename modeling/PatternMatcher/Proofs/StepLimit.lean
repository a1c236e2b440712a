import Mathlib
import PatternMatcher.Proofs.Unlimited

/-!
# The step limit is a threshold

A limit lets a call do what it does without one, as long as the steps of that stay
within the limit, and makes it exceed the limit otherwise (`CappedAt`).  This passes
through doing one thing after another, since steps are never taken back
(`CappedAt.andThen`), and so from the recursion to the calls.
-/

namespace PatternMatcher

/-- What a limit on the steps makes of a result without one. -/
structure CappedAt {α : Type} (limit : Nat)
    (free capped : Except SearchError α × Account) : Prop where
  same : free.2.steps ≤ limit → capped = free
  exceeded : limit < free.2.steps → capped.1 = .error (.stepLimitExceeded limit)

theorem CappedAt.refl {α : Type} {limit : Nat} {result : Except SearchError α × Account}
    (within : result.2.steps ≤ limit) : CappedAt limit result result :=
  ⟨fun _ => rfl, fun beyond => absurd within (Nat.not_le_of_lt beyond)⟩

/-- A limit on two things done one after the other. -/
theorem CappedAt.andThen {α β : Type} {limit : Nat}
    {free capped : Except SearchError α × Account}
    {next next' : Except SearchError α × Account → Except SearchError β × Account}
    (first : CappedAt limit free capped)
    (spends : free.2.steps ≤ (next free).2.steps)
    (handsOn : ∀ error account, next' (.error error, account) = (.error error, account))
    (second : free.2.steps ≤ limit → CappedAt limit (next free) (next' free)) :
    CappedAt limit (next free) (next' capped) := by
  rcases Nat.lt_or_ge limit free.2.steps with beyond | within
  · have beyond' : limit < (next free).2.steps := Nat.lt_of_lt_of_le beyond spends
    refine ⟨fun within => absurd within (Nat.not_le_of_lt beyond'), fun _ => ?_⟩
    obtain ⟨result, account⟩ := capped
    obtain rfl : result = .error (.stepLimitExceeded limit) := first.exceeded beyond
    rw [handsOn]
  · rw [first.same within]
    exact second within

namespace Search

section Counts

variable {attempt attempt' : Nat → Account → Choice} {index min : Nat}

/-- What is done about an attempt behind `count` repetitions. -/
def afterCount (attempt : Nat → Account → Choice) (index min count : Nat) : Choice → Choice
  | (.error error, account) => (.error error, account)
  | (.ok (some counts), account) => (.ok (some (count :: counts)), account)
  | (.ok none, account) =>
      match count with
      | 0 => (.ok none, account)
      | fewer + 1 =>
          if fewer + 1 ≤ min then (.ok none, account)
          else tryCounts attempt index min fewer (account.note (.gaveBack index fewer))

theorem tryCounts_eq_afterCount (count : Nat) (account : Account) :
    tryCounts attempt index min count account =
      afterCount attempt index min count (attempt count account) := by
  rw [tryCounts.eq_def]
  rfl

theorem steps_le_tryCounts
    (spends : ∀ count account, account.steps ≤ (attempt count account).2.steps)
    (count : Nat) (account : Account) :
    account.steps ≤ (tryCounts attempt index min count account).2.steps := by
  have spent := spends count account
  fun_induction tryCounts attempt index min count account with
  | case1 count account error spent' attempted => rwa [attempted] at spent
  | case2 count account counts spent' attempted => rwa [attempted] at spent
  | case3 account spent' attempted => rwa [attempted] at spent
  | case4 account spent' fewer bare attempted => rwa [attempted] at spent
  | case5 account spent' fewer spare attempted ih =>
      rw [attempted] at spent
      have later := ih (spends fewer _)
      exact Nat.le_trans spent later

theorem steps_le_afterCount
    (spends : ∀ count account, account.steps ≤ (attempt count account).2.steps)
    (count : Nat) (choice : Choice) :
    choice.2.steps ≤ (afterCount attempt index min count choice).2.steps := by
  rcases choice with ⟨error | none | counts, account⟩
  · exact Nat.le_refl _
  · cases count with
    | zero => exact Nat.le_refl _
    | succ fewer =>
        rw [afterCount]
        split
        · exact Nat.le_refl _
        · exact steps_le_tryCounts spends fewer (account.note (.gaveBack index fewer))
  · exact Nat.le_refl _

theorem cappedAt_tryCounts {limit : Nat}
    (spends : ∀ count account, account.steps ≤ (attempt count account).2.steps)
    (attempts : ∀ count account,
      CappedAt limit (attempt count account) (attempt' count account))
    (count : Nat) (account : Account) :
    CappedAt limit (tryCounts attempt index min count account)
      (tryCounts attempt' index min count account) := by
  induction count generalizing account with
  | zero =>
      rw [tryCounts_eq_afterCount, tryCounts_eq_afterCount]
      apply (attempts 0 account).andThen (steps_le_afterCount spends 0 _) (fun _ _ => rfl)
      intro within
      generalize attempt 0 account = choice at within ⊢
      rcases choice with ⟨error | none | counts, spent⟩
      · exact .refl within
      · exact .refl within
      · exact .refl within
  | succ fewer ih =>
      rw [tryCounts_eq_afterCount, tryCounts_eq_afterCount]
      apply (attempts (fewer + 1) account).andThen
        (steps_le_afterCount spends (fewer + 1) _) (fun _ _ => rfl)
      intro within
      generalize attempt (fewer + 1) account = choice at within ⊢
      rcases choice with ⟨error | none | counts, spent⟩
      · exact .refl within
      · rw [afterCount, afterCount]
        split
        · exact .refl within
        · exact ih (spent.note (.gaveBack index fewer))
      · exact .refl within

end Counts

theorem steps_lt_tryFrom (search : Search) (operators : List Operator) (index offset : Nat)
    (account : Account) :
    account.steps < (search.tryFrom operators index offset account).2.steps := by
  induction operators generalizing index offset account with
  | nil =>
      cases allowed : search.exceededLimit? (account.steps + 1) with
      | some limit =>
          rw [tryFrom_of_exceeded allowed]
          exact Nat.lt_succ_self _
      | none =>
          cases ending : search.mayEndAt offset with
          | true =>
              rw [tryFrom_nil_of_mayEnd allowed ending]
              exact Nat.lt_succ_self _
          | false =>
              rw [tryFrom_nil_of_not_mayEnd allowed ending]
              exact Nat.lt_succ_self _
  | cons operator later ih =>
      cases allowed : search.exceededLimit? (account.steps + 1) with
      | some limit =>
          rw [tryFrom_of_exceeded allowed]
          exact Nat.lt_succ_self _
      | none =>
          by_cases tooFew : operator.greedyCount search.subject offset 0 < operator.min
          · rw [tryFrom_cons_of_lt allowed tooFew]
            exact Nat.lt_succ_self _
          · rw [tryFrom_cons_of_le allowed (Nat.le_of_not_lt tooFew)]
            refine Nat.lt_of_lt_of_le (Nat.lt_succ_self _) (steps_le_tryCounts ?_ _ account.tick)
            intro count account
            exact Nat.le_of_lt (ih _ _ account)

section Limited

variable {subject : Array Char} {anchored : Bool} {limit : Nat}

theorem exceededLimit?_none (steps : Nat) :
    (Search.mk subject anchored none).exceededLimit? steps = none := rfl

theorem exceededLimit?_of_lt {steps : Nat} (beyond : limit < steps) :
    (Search.mk subject anchored (some limit)).exceededLimit? steps = some limit := by
  simp [exceededLimit?, beyond]

theorem exceededLimit?_of_le {steps : Nat} (within : steps ≤ limit) :
    (Search.mk subject anchored (some limit)).exceededLimit? steps = none := by
  simp [exceededLimit?, within]

theorem cappedAt_tryFrom_of_lt {operators : List Operator} {index offset : Nat}
    {account : Account} (beyond : limit < account.steps + 1) :
    CappedAt limit
      ((Search.mk subject anchored none).tryFrom operators index offset account)
      ((Search.mk subject anchored (some limit)).tryFrom operators index offset account) := by
  have spent := (Search.mk subject anchored none).steps_lt_tryFrom operators index offset account
  refine ⟨fun within => ?_, fun _ => ?_⟩
  · omega
  · rw [tryFrom_of_exceeded (exceededLimit?_of_lt beyond)]

theorem cappedAt_tryFrom (operators : List Operator) (index offset : Nat)
    (account : Account) :
    CappedAt limit
      ((Search.mk subject anchored none).tryFrom operators index offset account)
      ((Search.mk subject anchored (some limit)).tryFrom operators index offset account) := by
  induction operators generalizing index offset account with
  | nil =>
      rcases Nat.lt_or_ge limit (account.steps + 1) with beyond | within
      · exact cappedAt_tryFrom_of_lt beyond
      · cases ending : (Search.mk subject anchored none).mayEndAt offset with
        | true =>
            rw [tryFrom_nil_of_mayEnd (exceededLimit?_none _) ending,
              tryFrom_nil_of_mayEnd (exceededLimit?_of_le within) ending]
            exact .refl within
        | false =>
            rw [tryFrom_nil_of_not_mayEnd (exceededLimit?_none _) ending,
              tryFrom_nil_of_not_mayEnd (exceededLimit?_of_le within) ending]
            exact .refl within
  | cons operator later ih =>
      rcases Nat.lt_or_ge limit (account.steps + 1) with beyond | within
      · exact cappedAt_tryFrom_of_lt beyond
      · by_cases tooFew : operator.greedyCount subject offset 0 < operator.min
        · rw [tryFrom_cons_of_lt (exceededLimit?_none _) tooFew,
            tryFrom_cons_of_lt (exceededLimit?_of_le within) tooFew]
          exact .refl within
        · have enough := Nat.le_of_not_lt tooFew
          rw [tryFrom_cons_of_le (exceededLimit?_none _) enough,
            tryFrom_cons_of_le (exceededLimit?_of_le within) enough]
          apply cappedAt_tryCounts
          · intro count account
            exact Nat.le_of_lt (steps_lt_tryFrom _ later _ _ account)
          · intro count account
            exact ih _ _ account

end Limited

section Answers

/-- The answer that a choice at the offset `start` amounts to. -/
def answerOf (start : Nat) : Choice → Answer
  | (.ok (some counts), account) =>
      (.ok (some (.ofCounts start counts)), account.note (.matched start (start + counts.sum)))
  | (.ok none, account) => (.ok none, account)
  | (.error error, account) => (.error error, account)

theorem answer_eq_answerOf (search : Search) (pattern : Pattern) (start : Nat)
    (account : Account) :
    search.answer pattern start account =
      answerOf start (search.tryFrom pattern.operators 0 start account) := rfl

theorem steps_answerOf (start : Nat) (choice : Choice) :
    (answerOf start choice).2.steps = choice.2.steps := by
  rcases choice with ⟨error | none | counts, account⟩ <;> rfl

/-- What is done about an answer at one offset with others still `later`. -/
def afterAnswer (search : Search) (pattern : Pattern) (later : List Nat) : Answer → Answer
  | (.ok none, account) => search.answerEach pattern later account
  | decided => decided

theorem answerEach_eq_afterAnswer (search : Search) (pattern : Pattern) (start : Nat)
    (later : List Nat) (account : Account) :
    search.answerEach pattern (start :: later) account =
      search.afterAnswer pattern later (search.answer pattern start account) := rfl

theorem steps_lt_answer (search : Search) (pattern : Pattern) (start : Nat)
    (account : Account) :
    account.steps < (search.answer pattern start account).2.steps := by
  rw [answer_eq_answerOf, steps_answerOf]
  exact search.steps_lt_tryFrom pattern.operators 0 start account

theorem steps_le_answerEach (search : Search) (pattern : Pattern) (starts : List Nat)
    (account : Account) :
    account.steps ≤ (search.answerEach pattern starts account).2.steps := by
  induction starts generalizing account with
  | nil => exact Nat.le_refl _
  | cons start later ih =>
      have spent := search.steps_lt_answer pattern start account
      rw [answerEach_eq_afterAnswer]
      generalize search.answer pattern start account = decided at spent ⊢
      rcases decided with ⟨error | none | found, after⟩
      · exact Nat.le_of_lt spent
      · exact Nat.le_trans (Nat.le_of_lt spent) (ih after)
      · exact Nat.le_of_lt spent

theorem steps_le_afterAnswer (search : Search) (pattern : Pattern) (later : List Nat)
    (answer : Answer) :
    answer.2.steps ≤ (search.afterAnswer pattern later answer).2.steps := by
  rcases answer with ⟨error | none | found, account⟩
  · exact Nat.le_refl _
  · exact search.steps_le_answerEach pattern later account
  · exact Nat.le_refl _

theorem steps_lt_answerEach_cons (search : Search) (pattern : Pattern) (start : Nat)
    (later : List Nat) (account : Account) :
    account.steps < (search.answerEach pattern (start :: later) account).2.steps := by
  rw [answerEach_eq_afterAnswer]
  exact Nat.lt_of_lt_of_le (search.steps_lt_answer pattern start account)
    (search.steps_le_afterAnswer pattern later _)

variable {subject : Array Char} {anchored : Bool} {limit : Nat}

theorem cappedAt_answer (pattern : Pattern) (start : Nat) (account : Account) :
    CappedAt limit ((Search.mk subject anchored none).answer pattern start account)
      ((Search.mk subject anchored (some limit)).answer pattern start account) := by
  rw [answer_eq_answerOf, answer_eq_answerOf]
  apply (cappedAt_tryFrom pattern.operators 0 start account).andThen
    (Nat.le_of_eq (steps_answerOf start _).symm) (fun _ _ => rfl)
  intro within
  apply CappedAt.refl
  rwa [steps_answerOf]

/-- The steps of all offsets count together, so that they are under one limit. -/
theorem cappedAt_answerEach (pattern : Pattern) (starts : List Nat) {account : Account}
    (within : account.steps ≤ limit) :
    CappedAt limit ((Search.mk subject anchored none).answerEach pattern starts account)
      ((Search.mk subject anchored (some limit)).answerEach pattern starts account) := by
  induction starts generalizing account with
  | nil => exact .refl within
  | cons start later ih =>
      rw [answerEach_eq_afterAnswer, answerEach_eq_afterAnswer]
      apply (cappedAt_answer pattern start account).andThen
        (steps_le_afterAnswer _ pattern later _) (fun _ _ => rfl)
      intro within
      generalize (Search.mk subject anchored none).answer pattern start account = decided
        at within ⊢
      rcases decided with ⟨error | none | found, spent⟩
      · exact .refl within
      · exact ih within
      · exact .refl within

end Answers

end Search

/-- The number of steps from which on a limit is no limit to a call. -/
structure SharpAt {α : Type} (call : Option Nat → Except SearchError α) (steps : Nat) :
    Prop where
  positive : 1 ≤ steps
  answers : ∃ answer, call none = .ok answer
  below : ∀ limit, limit < steps → call (some limit) = .error (.stepLimitExceeded limit)
  reached : ∀ limit, steps ≤ limit → call (some limit) = call none
  /-- An answer stays the same when the limit is raised or lifted. -/
  lasting : ∀ limit answer, call (some limit) = .ok answer →
    call none = .ok answer ∧ ∀ higher, limit ≤ higher → call (some higher) = .ok answer

namespace SharpAt

variable {α β : Type} {call : Option Nat → Except SearchError α} {steps : Nat}

theorem of_threshold (positive : 1 ≤ steps) (answers : ∃ answer, call none = .ok answer)
    (below : ∀ limit, limit < steps → call (some limit) = .error (.stepLimitExceeded limit))
    (reached : ∀ limit, steps ≤ limit → call (some limit) = call none) :
    SharpAt call steps := by
  refine ⟨positive, answers, below, reached, fun limit answer answered => ?_⟩
  have enough : steps ≤ limit := by
    by_contra few
    rw [below limit (Nat.lt_of_not_le few)] at answered
    cases answered
  have unlimited : call none = .ok answer := by rw [← reached limit enough, answered]
  refine ⟨unlimited, fun higher raised => ?_⟩
  rw [reached higher (Nat.le_trans enough raised), unlimited]

theorem of_cappedAt {result : Option Nat → Except SearchError α × Account}
    (positive : 1 ≤ (result none).2.steps)
    (answers : ∃ answer, (result none).1 = .ok answer)
    (capped : ∀ limit, CappedAt limit (result none) (result (some limit))) :
    SharpAt (fun stepLimit => (result stepLimit).1) (result none).2.steps :=
  of_threshold positive answers (fun limit => (capped limit).exceeded)
    (fun limit within => congrArg Prod.fst ((capped limit).same within))

theorem map (sharp : SharpAt call steps) (view : α → β) :
    SharpAt (fun stepLimit => (call stepLimit).map view) steps := by
  apply of_threshold sharp.positive
  · obtain ⟨answer, answered⟩ := sharp.answers
    exact ⟨view answer, by rw [answered]; rfl⟩
  · intro limit few
    rw [sharp.below limit few]
    rfl
  · intro limit enough
    rw [sharp.reached limit enough]

end SharpAt

namespace Matcher

variable (pattern : Pattern) (subject : String)

theorem sharpAt_fullMatch :
    SharpAt (fun stepLimit => fullMatch { pattern, stepLimit } subject)
      (pattern.unlimited.reportFullMatch (chars subject)).steps := by
  have answers : ∃ answer, pattern.unlimited.fullMatch subject = .ok answer := by
    rcases pattern.fullMatch_unlimited subject with ⟨counts, _, answered⟩ | ⟨_, answered⟩
    · exact ⟨_, answered⟩
    · exact ⟨_, answered⟩
  simp only [fullMatch_eq, reportFullMatch_eq] at answers ⊢
  refine .of_cappedAt ?_ answers (fun limit => Search.cappedAt_answer pattern 0 .initial)
  exact Search.steps_lt_answer _ pattern 0 .initial

theorem sharpAt_find :
    SharpAt (fun stepLimit => find { pattern, stepLimit } subject)
      (pattern.unlimited.reportFind (chars subject)).steps := by
  have answers : ∃ answer, pattern.unlimited.find subject = .ok answer := by
    rcases pattern.find_unlimited subject with ⟨_, counts, _, _, _, _, answered⟩ | ⟨_, answered⟩
    · exact ⟨_, answered⟩
    · exact ⟨_, answered⟩
  simp only [find, reportFind_eq] at answers ⊢
  refine .of_cappedAt ?_ answers
    (fun limit => Search.cappedAt_answerEach pattern _ (Nat.zero_le limit))
  rw [List.range_eq_range', List.range'_succ]
  exact Search.steps_lt_answerEach_cons _ pattern 0 _ .initial

/-- Whether a limit is hit depends only on how it compares to the steps that the call
takes without one.  `isMatch` takes the steps of `fullMatch`. -/
theorem stepLimit_sharp :
    SharpAt (fun stepLimit => fullMatch { pattern, stepLimit } subject)
      (pattern.unlimited.reportFullMatch (chars subject)).steps ∧
    SharpAt (fun stepLimit => isMatch { pattern, stepLimit } subject)
      (pattern.unlimited.reportFullMatch (chars subject)).steps ∧
    SharpAt (fun stepLimit => find { pattern, stepLimit } subject)
      (pattern.unlimited.reportFind (chars subject)).steps :=
  ⟨sharpAt_fullMatch pattern subject, (sharpAt_fullMatch pattern subject).map Option.isSome,
    sharpAt_find pattern subject⟩

end Matcher

end PatternMatcher
