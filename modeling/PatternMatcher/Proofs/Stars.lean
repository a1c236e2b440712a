import Mathlib
import PatternMatcher.Proofs.Reading
import PatternMatcher.Proofs.SearchTree
import PatternMatcher.Proofs.Sequences

/-!
# Stars in a row

The worst that operators without a maximum can do: some of them in a row, each of which
takes any character of the subject, in front of an operator that takes none.  The search
fails, and its tree has a node for each selection of where the operators end.  Its size is
a binomial coefficient, and so is the step limit that a call needs.
-/

namespace PatternMatcher

theorem one_add_sum_choose (room ways : Nat) :
    1 + ∑ left ∈ Finset.range (room + 1), (left + ways + 1).choose ways =
      (room + ways + 2).choose (ways + 1) := by
  have stick := Nat.sum_range_add_choose (room + 1) ways
  rw [Finset.sum_range_succ', Nat.zero_add, Nat.choose_self] at stick
  calc
    1 + ∑ left ∈ Finset.range (room + 1), (left + ways + 1).choose ways
      = ∑ left ∈ Finset.range (room + 1), (left + 1 + ways).choose ways + 1 := by
        simp only [Nat.add_right_comm _ 1 ways, Nat.add_comm 1]
    _ = (room + 1 + ways + 1).choose (ways + 1) := stick
    _ = (room + ways + 2).choose (ways + 1) := by
        rw [Nat.add_right_comm room 1 ways]

/-- The same with the characters counted that are taken instead of those that are left. -/
theorem one_add_sum_choose_sub (room ways : Nat) :
    1 + ∑ taken ∈ Finset.range (room + 1), (room - taken + ways + 1).choose ways =
      (room + ways + 2).choose (ways + 1) := by
  have turned : ∑ taken ∈ Finset.range (room + 1), (room - taken + ways + 1).choose ways =
      ∑ left ∈ Finset.range (room + 1), (left + ways + 1).choose ways :=
    Finset.sum_range_reflect (fun left => (left + ways + 1).choose ways) (room + 1)
  rw [turned, one_add_sum_choose]

/-- An operator that may take any number of the characters of a subject, whichever they
are. -/
structure Operator.TakesAll (operator : Operator) (subject : Array Char) : Prop where
  min_eq : operator.min = 0
  max?_eq : operator.max? = none
  accepts : ∀ offset, offset < subject.size → operator.acceptsAt subject offset = true

/-- An operator that has to take a character, but none of the subject's. -/
structure Operator.TakesNone (operator : Operator) (subject : Array Char) : Prop where
  min_pos : 0 < operator.min
  refuses : ∀ offset, operator.acceptsAt subject offset = false

section Tree

variable {subject : Array Char} {star last : Operator} {offset : Nat}

theorem Operator.TakesAll.greedyCount_eq (all : star.TakesAll subject) :
    star.greedyCount subject offset 0 = subject.size - offset := by
  apply Nat.le_antisymm
  · have reach : star.greedyCount subject offset 0 ≤ 0 + (subject.size - offset) :=
      Operator.greedyCount_le
    omega
  · have taken : star.Takes subject offset (subject.size - offset) := by
      refine ⟨by simp [all.min_eq], by simp [all.max?_eq], ?_⟩
      intro position after before
      apply all.accepts
      omega
    exact (Operator.takes_iff.mp taken).2

theorem Operator.TakesNone.greedyCount_eq (none : last.TakesNone subject) :
    last.greedyCount subject offset 0 = 0 := by
  rw [Operator.greedyCount]
  simp [none.refuses]

theorem Operator.TakesNone.not_takes (none : last.TakesNone subject) (count : Nat) :
    ¬last.Takes subject offset count := by
  intro taken
  have bounds := Operator.takes_iff.mp taken
  have positive := none.min_pos
  rw [none.greedyCount_eq] at bounds
  omega

theorem not_completable_of_takesNone (none : last.TakesNone subject) {mayEnd : Nat → Prop}
    (front : List Operator) : ¬Completable subject mayEnd (front ++ [last]) offset := by
  intro completable
  obtain ⟨_, _, _, counts, stop, assigned, _⟩ := completable_append_iff.mp completable
  obtain ⟨count, _, _, taken, _⟩ := Assigns.cons_iff.mp assigned
  exact none.not_takes count taken

namespace Search

theorem treeSize_stars (all : star.TakesAll subject) (none : last.TakesNone subject)
    (stars : Nat) (offset : Nat) :
    treeSize subject (List.replicate stars star ++ [last]) offset =
      (subject.size - offset + stars + 1).choose stars := by
  induction stars generalizing offset with
  | zero => simp [treeSize, none.greedyCount_eq, none.min_pos]
  | succ stars ih =>
      rw [List.replicate_succ, List.cons_append, treeSize, all.min_eq, all.greedyCount_eq]
      simp only [ih, Nat.sub_add_eq, ← Nat.range_succ_eq_Icc_zero]
      exact one_add_sum_choose_sub _ _

end Search

end Tree

/-- The pattern of some starred `a`s and a `b`. -/
def Pattern.stars (count : Nat) : Pattern :=
  ⟨List.replicate count ⟨.literal 'a', .zeroOrMore⟩ ++ [⟨.literal 'b', .once⟩]⟩

theorem Pattern.parse_stars (count : Nat) :
    parse (String.join (List.replicate count "a*") ++ "b") = .ok (stars count) := by
  let star : WrittenItem := ⟨.bare 'a', [.zeroOrMore]⟩
  let last : WrittenItem := ⟨.bare 'b', []⟩
  have derived : Derives (List.replicate count star ++ [last])
      (String.join (List.replicate count "a*") ++ "b").toList (stars count).operators := by
    apply Derives.of_map_eq
    · intro item member
      rcases List.mem_append.mp member with starred | final
      · rw [List.eq_of_mem_replicate starred]
        exact ⟨by simp [star, WrittenAtom.WellFormed], by simp [star]⟩
      · rw [List.mem_singleton.mp final]
        exact ⟨by simp [last, WrittenAtom.WellFormed], by simp [last]⟩
    · simp only [List.flatMap_append, List.flatMap_replicate, String.toList_append,
        String.toList_join]
      rfl
    · simp [stars, star, last, WrittenItem.operator, WrittenAtom.atom]
  exact derived.ofChars_eq

/-- A subject of `a`s only. -/
def allAs (length : Nat) : String := .ofList (List.replicate length 'a')

section Letters

variable (length : Nat)

theorem chars_allAs : chars (allAs length) = (List.replicate length 'a').toArray := by
  simp [chars, allAs]

@[simp] theorem length_allAs : (allAs length).length = length := by
  simp [allAs]

theorem takesAll_star :
    Operator.TakesAll ⟨.literal 'a', .zeroOrMore⟩ (chars (allAs length)) := by
  refine ⟨rfl, rfl, ?_⟩
  intro offset inside
  rw [size_chars, length_allAs] at inside
  simp [chars_allAs, Operator.acceptsAt, Atom.accepts, inside]

theorem takesNone_last :
    Operator.TakesNone ⟨.literal 'b', .once⟩ (chars (allAs length)) := by
  refine ⟨Nat.zero_lt_one, ?_⟩
  intro offset
  by_cases inside : offset < length
  · simp [chars_allAs, Operator.acceptsAt, Atom.accepts, inside]
  · simp [chars_allAs, Operator.acceptsAt, inside]

theorem treeSize_stars_allAs (stars offset : Nat) :
    Search.treeSize (chars (allAs length)) (Pattern.stars stars).operators offset =
      (length - offset + stars + 1).choose stars := by
  rw [Pattern.stars, Search.treeSize_stars (takesAll_star length) (takesNone_last length),
    size_chars, length_allAs]

theorem not_completable_stars (stars : Nat) (mayEnd : Nat → Prop) (offset : Nat) :
    ¬Completable (chars (allAs length)) mayEnd (Pattern.stars stars).operators offset :=
  not_completable_of_takesNone (takesNone_last length) _

end Letters

/-- The step limits at which some starred `a`s and a `b` are not found in `a`s alone. -/
theorem Matcher.stepLimit_stars (stars length : Nat) :
    ∃ pattern, Pattern.parse (String.join (List.replicate stars "a*") ++ "b") = .ok pattern ∧
      ∀ limit,
        fullMatch { pattern, stepLimit := some limit } (.ofList (List.replicate length 'a')) =
          (if limit < (length + stars + 1).choose stars
            then .error (.stepLimitExceeded limit) else .ok none) ∧
        find { pattern, stepLimit := some limit } (.ofList (List.replicate length 'a')) =
          (if limit < (length + stars + 2).choose (stars + 1) - 1
            then .error (.stepLimitExceeded limit) else .ok none) := by
  refine ⟨_, Pattern.parse_stars stars, fun limit => ?_⟩
  change fullMatch _ (allAs length) = _ ∧ find _ (allAs length) = _
  have whole : (Pattern.stars stars).unlimited.fullMatch (allAs length) = .ok none :=
    Pattern.fullMatch_of_not_completable (not_completable_stars length stars _ 0)
  have part : (Pattern.stars stars).unlimited.find (allAs length) = .ok none :=
    Pattern.find_of_not_completable (not_completable_stars length stars _)
  constructor
  · rw [fullMatch_of_missing whole, treeSize_stars_allAs, Nat.sub_zero]
  · have total := one_add_sum_choose_sub length stars
    rw [find_of_missing part, length_allAs]
    simp only [treeSize_stars_allAs]
    rw [← total, Nat.add_sub_cancel_left]

end PatternMatcher
