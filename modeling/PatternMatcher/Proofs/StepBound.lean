import Mathlib
import PatternMatcher.Proofs.SearchTree
import PatternMatcher.Proofs.Turns

/-!
# A bound on the steps of a search

The tree of a search has a level for each operator and one behind the last of them.  An
operator that has to take one character does not let it branch, an optional one doubles it,
and the operators without a maximum share out the characters left to them, in as many ways
as there are selections of their number.  This bounds the turns of every attempt, and a
limit of as many steps is never exceeded.
-/

namespace PatternMatcher

namespace Pattern

/-- The number of operators that take one character or none. -/
def optionals (pattern : Pattern) : Nat :=
  pattern.operators.countP (·.quantifier == .optional)

/-- The number of operators that may take any number of characters. -/
def unbounded (pattern : Pattern) : Nat :=
  pattern.operators.countP (·.max?.isNone)

/-- A number of steps that suffices at one offset of a subject of the given length. -/
def stepBound (pattern : Pattern) (length : Nat) : Nat :=
  (pattern.size + 1) * 2 ^ pattern.optionals *
    (length + pattern.unbounded).choose pattern.unbounded

theorem optionals_cons (operator : Operator) (later : List Operator) :
    (mk (operator :: later)).optionals =
      (mk later).optionals + if operator.quantifier = .optional then 1 else 0 := by
  simp [optionals, List.countP_cons]

theorem unbounded_cons (operator : Operator) (later : List Operator) :
    (mk (operator :: later)).unbounded =
      (mk later).unbounded + if operator.max? = none then 1 else 0 := by
  simp [unbounded, List.countP_cons]

theorem stepBound_mono (pattern : Pattern) {shorter length : Nat} (within : shorter ≤ length) :
    pattern.stepBound shorter ≤ pattern.stepBound length := by
  apply Nat.mul_le_mul_left
  exact Nat.choose_le_choose _ (Nat.add_le_add_right within _)

end Pattern

section Choices

variable {room least most ways : Nat}

theorem sum_choose_le_mul :
    ∑ count ∈ Finset.Icc least most, (room - count + ways).choose ways ≤
      (most + 1 - least) * (room + ways).choose ways := by
  have each : ∀ count ∈ Finset.Icc least most,
      (room - count + ways).choose ways ≤ (room + ways).choose ways := by
    intro count _
    apply Nat.choose_le_choose
    omega
  have total := Finset.sum_le_card_nsmul _ _ _ each
  rwa [Nat.card_Icc, smul_eq_mul] at total

/-- One more operator without a maximum shares in the characters. -/
theorem sum_choose_le_choose (reach : most ≤ room) :
    ∑ count ∈ Finset.Icc least most, (room - count + ways).choose ways ≤
      (room + (ways + 1)).choose (ways + 1) := by
  have inside : Finset.Icc least most ⊆ Finset.range (room + 1) := by
    intro count member
    simp only [Finset.mem_Icc, Finset.mem_range] at member ⊢
    omega
  calc
    ∑ count ∈ Finset.Icc least most, (room - count + ways).choose ways
      ≤ ∑ count ∈ Finset.range (room + 1), (room - count + ways).choose ways :=
        Finset.sum_le_sum_of_subset inside
    _ = ∑ left ∈ Finset.range (room + 1), (left + ways).choose ways :=
        Finset.sum_range_reflect (fun left => (left + ways).choose ways) (room + 1)
    _ = (room + (ways + 1)).choose (ways + 1) := by
        rw [Nat.sum_range_add_choose, Nat.add_assoc]

end Choices

namespace Search

variable {subject : Array Char}

/-- What an operator contributes to the bound makes up for all counts it may have. -/
theorem sum_counts_le (operator : Operator) (later : List Operator) (offset : Nat) :
    2 ^ (Pattern.mk later).optionals *
        ∑ count ∈ Finset.Icc operator.min (operator.greedyCount subject offset 0),
          (subject.size - offset - count + (Pattern.mk later).unbounded).choose
            (Pattern.mk later).unbounded ≤
      2 ^ (Pattern.mk (operator :: later)).optionals *
        (subject.size - offset + (Pattern.mk (operator :: later)).unbounded).choose
          (Pattern.mk (operator :: later)).unbounded := by
  have reach : operator.greedyCount subject offset 0 ≤ 0 + (subject.size - offset) :=
    Operator.greedyCount_le
  have atMost : ∀ max, operator.max? = some max →
      operator.greedyCount subject offset 0 ≤ max :=
    fun max bound => Operator.greedyCount_le_max bound (Nat.zero_le max)
  generalize operator.greedyCount subject offset 0 = most at reach atMost ⊢
  obtain ⟨atom, quantifier⟩ := operator
  rw [Pattern.optionals_cons, Pattern.unbounded_cons]
  cases quantifier with
  | once =>
      have single : most + 1 - 1 ≤ 1 := atMost 1 rfl
      apply Nat.mul_le_mul_left
      apply Nat.le_trans sum_choose_le_mul
      apply Nat.le_trans (Nat.mul_le_mul_right _ single)
      exact Nat.le_of_eq (Nat.one_mul _)
  | optional =>
      have both : most + 1 - 0 ≤ 2 := Nat.succ_le_succ (atMost 1 rfl)
      rw [if_pos rfl, Nat.pow_succ, Nat.mul_assoc]
      apply Nat.mul_le_mul_left
      apply Nat.le_trans sum_choose_le_mul
      exact Nat.mul_le_mul_right _ both
  | zeroOrMore =>
      apply Nat.mul_le_mul_left
      apply sum_choose_le_choose
      omega
  | oneOrMore =>
      apply Nat.mul_le_mul_left
      apply sum_choose_le_choose
      omega

theorem treeSize_le_stepBound (operators : List Operator) (offset : Nat) :
    treeSize subject operators offset ≤
      (Pattern.mk operators).stepBound (subject.size - offset) := by
  induction operators generalizing offset with
  | nil => simp [treeSize, Pattern.stepBound, Pattern.size, Pattern.optionals, Pattern.unbounded]
  | cons operator later ih =>
      let rest : Pattern := ⟨later⟩
      let whole : Pattern := ⟨operator :: later⟩
      let room := subject.size - offset
      have behind : ∀ count, treeSize subject later (offset + count) ≤
          rest.stepBound (room - count) := by
        intro count
        have bound := ih (offset + count)
        rwa [Nat.sub_add_eq] at bound
      have shared : 2 ^ rest.optionals *
          ∑ count ∈ Finset.Icc operator.min (operator.greedyCount subject offset 0),
            (room - count + rest.unbounded).choose rest.unbounded ≤
          2 ^ whole.optionals * (room + whole.unbounded).choose whole.unbounded :=
        sum_counts_le operator later offset
      have positive : 1 ≤ 2 ^ whole.optionals * (room + whole.unbounded).choose whole.unbounded :=
        Nat.mul_pos (Nat.two_pow_pos _) (Nat.choose_pos (Nat.le_add_left _ _))
      calc
        treeSize subject (operator :: later) offset
          = 1 + ∑ count ∈ Finset.Icc operator.min (operator.greedyCount subject offset 0),
              treeSize subject later (offset + count) := rfl
        _ ≤ 1 + ∑ count ∈ Finset.Icc operator.min (operator.greedyCount subject offset 0),
              rest.stepBound (room - count) :=
            Nat.add_le_add_left (Finset.sum_le_sum fun count _ => behind count) 1
        _ = 1 + (rest.size + 1) * (2 ^ rest.optionals *
              ∑ count ∈ Finset.Icc operator.min (operator.greedyCount subject offset 0),
                (room - count + rest.unbounded).choose rest.unbounded) := by
            simp only [Pattern.stepBound, ← Finset.mul_sum, Nat.mul_assoc]
        _ ≤ 2 ^ whole.optionals * (room + whole.unbounded).choose whole.unbounded +
              (rest.size + 1) *
                (2 ^ whole.optionals * (room + whole.unbounded).choose whole.unbounded) :=
            Nat.add_le_add positive (Nat.mul_le_mul_left _ shared)
        _ = whole.stepBound room := by
            have level : whole.size = rest.size + 1 := rfl
            rw [Pattern.stepBound, level]
            ring

theorem treeSize_le (pattern : Pattern) (subject : Array Char) (offset : Nat) :
    treeSize subject pattern.operators offset ≤ pattern.stepBound subject.size :=
  Nat.le_trans (treeSize_le_stepBound pattern.operators offset)
    (pattern.stepBound_mono (Nat.sub_le _ _))

/-- A run from a state comes to its verdict after some number of turns. -/
inductive EndsAfter (search : Search) : SearchState → Nat → Verdict → Prop where
  | halt {last : SearchState} {verdict : Verdict} :
      search.turn last = .halt verdict → EndsAfter search last 1 verdict
  | again {first second : SearchState} {turns : Nat} {verdict : Verdict} :
      search.turn first = .again second → EndsAfter search second turns verdict →
      EndsAfter search first (turns + 1) verdict

theorem exists_endsAfter (search : Search) (first : SearchState) :
    ∃ turns, search.EndsAfter first turns (search.run first) ∧
      (search.run first).2.steps = first.progress.steps + turns := by
  fun_induction run search first with
  | case1 last verdict taken => exact ⟨1, .halt taken, (Turned.of_turn_eq taken).steps_eq⟩
  | case2 first second taken ih =>
      obtain ⟨turns, ended, spent⟩ := ih
      have ticked : second.progress.steps = first.progress.steps + 1 :=
        (Turned.of_turn_eq taken).steps_eq
      refine ⟨turns + 1, .again taken ended, ?_⟩
      omega

/-- The machine spends the steps of the recursion. -/
theorem steps_run_start (search : Search) {pattern : Pattern} (start : Nat)
    {progress : Progress} (sized : progress.history.size = pattern.size) :
    (search.run (.start pattern start progress.reset)).2.steps =
      (search.tryFrom pattern.operators 0 start progress.account).2.steps := by
  have followed := follows_start search start sized
  generalize search.tryFrom pattern.operators 0 start progress.account = choice at followed ⊢
  generalize search.run _ = verdict at followed ⊢
  cases followed with
  | matched told _ => exact congrArg Account.steps told
  | failed told _ => exact congrArg Account.steps told
  | stopped told => exact congrArg Account.steps told

end Search

/-- Every attempt to match a pattern, at whatever offset of a subject, comes to its end
within a number of turns, each of which is one step. -/
def Pattern.EndsWithin (pattern : Pattern) (subject : Array Char) (bound : Nat) : Prop :=
  ∀ (anchored : Bool) (stepLimit : Option Nat) (start : Nat) (before : Progress),
    before.history.size = pattern.size →
    let search : Search := ⟨subject, anchored, stepLimit⟩
    let first : SearchState := .start pattern start before.reset
    ∃ turns, turns ≤ bound ∧ search.EndsAfter first turns (search.run first) ∧
      (search.run first).2.steps = before.steps + turns

theorem Pattern.endsWithin_stepBound (pattern : Pattern) (subject : Array Char) :
    pattern.EndsWithin subject (pattern.stepBound subject.size) := by
  intro anchored stepLimit start before sized search first
  obtain ⟨turns, ended, spent⟩ := search.exists_endsAfter first
  refine ⟨turns, ?_, ended, spent⟩
  have tree : (search.tryFrom pattern.operators 0 start before.account).2.steps ≤
      before.steps + pattern.stepBound subject.size := by
    apply (search.spends_tryFrom pattern.operators 0 start before.account).steps_le_of_le
    exact Search.treeSize_le pattern subject start
  rw [← search.steps_run_start start sized, spent] at tree
  exact Nat.le_of_add_le_add_left tree

theorem Pattern.stepBound_of_once {pattern : Pattern}
    (plain : ∀ operator ∈ pattern.operators, operator.quantifier = .once) (length : Nat) :
    pattern.stepBound length = pattern.size + 1 := by
  have noOptional : pattern.optionals = 0 := by
    rw [optionals, List.countP_eq_zero]
    intro operator member
    simp [plain operator member]
  have noUnbounded : pattern.unbounded = 0 := by
    rw [unbounded, List.countP_eq_zero]
    intro operator member
    simp [Operator.max?, Quantifier.max?, plain operator member]
  simp [stepBound, noOptional, noUnbounded]

theorem SharpAt.answers_of_le {α : Type} {call : Option Nat → Except SearchError α}
    {steps limit : Nat} (sharp : SharpAt call steps) (enough : steps ≤ limit) :
    ∃ answer, call (some limit) = .ok answer := by
  rw [sharp.reached limit enough]
  exact sharp.answers

namespace Matcher

variable (pattern : Pattern) (subject : String)

theorem steps_fullMatch_le :
    (pattern.unlimited.reportFullMatch (chars subject)).steps ≤
      pattern.stepBound subject.length := by
  have spends := (pattern.unlimited.search true (chars subject)).spends_answer pattern 0 .initial
  have tree := spends.steps_le_of_le (Search.treeSize_le pattern (chars subject) 0)
  rw [size_chars] at tree
  rw [reportFullMatch_eq]
  exact Nat.le_trans tree (Nat.le_of_eq (Nat.zero_add _))

theorem steps_find_le :
    (pattern.unlimited.reportFind (chars subject)).steps ≤
      (subject.length + 1) * pattern.stepBound subject.length := by
  let starts := List.range ((chars subject).size + 1)
  have spends := (pattern.unlimited.search false (chars subject)).spends_answerEach pattern
    starts .initial
  have each : ∀ tree ∈ starts.map (Search.treeSize (chars subject) pattern.operators),
      tree ≤ pattern.stepBound (chars subject).size := by
    intro tree member
    obtain ⟨start, -, rfl⟩ := List.mem_map.mp member
    exact Search.treeSize_le pattern (chars subject) start
  have trees := spends.steps_le_of_le (List.sum_le_card_nsmul _ _ each)
  rw [List.length_map, List.length_range, smul_eq_mul, size_chars] at trees
  rw [reportFind_eq]
  exact Nat.le_trans trees (Nat.le_of_eq (Nat.zero_add _))

/-- A search ends within a bound that is known from the pattern and the length of the
subject, so that a limit of as many steps, for each offset where it begins, is never
exceeded. -/
theorem answers_within_stepBound :
    pattern.EndsWithin (chars subject) (pattern.stepBound subject.length) ∧
    (∀ limit, pattern.stepBound subject.length ≤ limit →
      ∃ answer, fullMatch { pattern, stepLimit := some limit } subject = .ok answer) ∧
    (∀ limit, (subject.length + 1) * pattern.stepBound subject.length ≤ limit →
      ∃ answer, find { pattern, stepLimit := some limit } subject = .ok answer) ∧
    ((∀ operator ∈ pattern.operators, operator.quantifier = .once) →
      pattern.EndsWithin (chars subject) (pattern.size + 1)) := by
  have ends := pattern.endsWithin_stepBound (chars subject)
  rw [size_chars] at ends
  refine ⟨ends, ?_, ?_, ?_⟩
  · intro limit enough
    apply (sharpAt_fullMatch pattern subject).answers_of_le
    exact Nat.le_trans (steps_fullMatch_le pattern subject) enough
  · intro limit enough
    apply (sharpAt_find pattern subject).answers_of_le
    exact Nat.le_trans (steps_find_le pattern subject) enough
  · intro plain
    rwa [Pattern.stepBound_of_once plain] at ends

/-- An operator of each kind, and a pattern without quantifiers. -/
theorem answers_within_stepBound_of_each_kind :
    let pattern : Pattern := ⟨[⟨.literal 'a', .optional⟩, ⟨.any, .zeroOrMore⟩,
      ⟨.literal 'b', .oneOrMore⟩, ⟨.literal 'c', .once⟩]⟩
    let plain : Pattern := ⟨[⟨.literal 'a', .once⟩, ⟨.any, .once⟩]⟩
    let search : Search := ⟨chars "aba", true, none⟩
    let before : Progress := ⟨2, .ofSize 4, #[]⟩
    let first : SearchState := .start pattern 0 before.reset
    pattern.stepBound "aba".length = 100 ∧ before.history.size = pattern.size ∧
      (∃ turns, turns ≤ 100 ∧ search.EndsAfter first turns (search.run first) ∧
        (search.run first).2.steps = 2 + turns) ∧
      (∃ answer, fullMatch { pattern, stepLimit := some 100 } "aba" = .ok answer) ∧
      (∃ answer, find { pattern, stepLimit := some 400 } "aba" = .ok answer) ∧
      plain.EndsWithin (chars "aba") 3 := by
  intro pattern plain search before first
  have bound : pattern.stepBound "aba".length = 100 := by decide +kernel
  have sized : before.history.size = pattern.size := rfl
  have once : ∀ operator ∈ plain.operators, operator.quantifier = .once := by decide
  have bounds := answers_within_stepBound pattern "aba"
  rw [bound] at bounds
  obtain ⟨ends, whole, part, -⟩ := bounds
  refine ⟨bound, sized, ends true none 0 before sized, ?_, ?_, ?_⟩
  · exact whole 100 (Nat.le_refl _)
  · exact part 400 (by decide +kernel)
  · exact (answers_within_stepBound plain "aba").2.2.2 once

end Matcher

end PatternMatcher
