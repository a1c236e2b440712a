import Mathlib
import PatternMatcher.Proofs.Lockstep

/-!
# Which characters there are does not matter

A matcher sees of a character only which operators accept it.  Two patterns with the same
quantifiers, and two subjects of the same length, at whose offsets operators in the same places
accept or refuse alike, give therefore the same matches in the same number of steps, under any
limit.  In particular nothing depends on the order of the characters, or on how they are
encoded: a renaming that keeps different characters apart changes no answer.
-/

namespace PatternMatcher

/-- Two operators that take the same numbers of characters, and that accept or refuse alike the
characters of two texts in the same places. -/
structure Operator.SameRow (subject text : String) (operator other : Operator) : Prop where
  quantifier_eq : operator.quantifier = other.quantifier
  accepts_eq : List.Forall₂
    (fun char char' => operator.atom.accepts char = other.atom.accepts char')
    subject.toList text.toList

/-- Two patterns that cannot be told apart by what their operators make of two subjects. -/
structure Pattern.SameTable (subject text : String) (pattern other : Pattern) : Prop where
  length_eq : subject.length = text.length
  rows : List.Forall₂ (Operator.SameRow subject text) pattern.operators other.operators

/-- Whatever one matcher is asked about one subject, the other one answers the same about the
other subject, in the same number of steps. -/
structure Matcher.AnswersAlike (subject text : String) (matcher other : Matcher) : Prop where
  fullMatch_eq : matcher.fullMatch subject = other.fullMatch text
  find_eq : matcher.find subject = other.find text
  isMatch_eq : matcher.isMatch subject = other.isMatch text
  steps_fullMatch_eq : (matcher.reportFullMatch (chars subject)).steps =
    (other.reportFullMatch (chars text)).steps
  steps_find_eq : (matcher.reportFind (chars subject)).steps =
    (other.reportFind (chars text)).steps

namespace Search

variable {search other : Search} {pattern pattern' : Pattern} {account account' : Account}

theorem inStep_answer {start : Nat}
    (alike : Alike search other start start pattern.operators pattern'.operators)
    (budget : SameBudget search other account.steps account'.steps) :
    InStep account.steps account'.steps (search.answer pattern start account)
      (other.answer pattern' start account') := by
  obtain ⟨same, more, steps, steps'⟩ := inStep_tryFrom alike 0 budget
  refine ⟨?_, more, ?_, ?_⟩
  · rw [answer_fst, answer_fst, same]
  · rw [answer_eq_answerOf, steps_answerOf]
    exact steps
  · rw [answer_eq_answerOf, steps_answerOf]
    exact steps'

/-- Searches that are alike at each offset go from one offset to the next in step. -/
theorem inStep_answerEach
    (alike : ∀ start, Alike search other start start pattern.operators pattern'.operators)
    (starts : List Nat) (budget : SameBudget search other account.steps account'.steps) :
    InStep account.steps account'.steps (search.answerEach pattern starts account)
      (other.answerEach pattern' starts account') := by
  induction starts generalizing account account' with
  | nil => exact ⟨rfl, 0, rfl, rfl⟩
  | cons start later ih =>
      have first := inStep_answer (alike start) budget
      rw [answerEach_eq_afterAnswer, answerEach_eq_afterAnswer]
      generalize search.answer pattern start account = decided at first ⊢
      generalize other.answer pattern' start account' = decided' at first ⊢
      obtain ⟨result, spent⟩ := decided
      obtain ⟨result', spent'⟩ := decided'
      obtain ⟨same, more, steps, steps'⟩ := first
      cases same
      rcases result with error | none | found
      · exact ⟨rfl, more, steps, steps'⟩
      · -- Both have failed here, and have spent the same part of what they may spend.
        apply InStep.behind ?_ steps steps'
        exact ih (budget.later steps steps')
      · exact ⟨rfl, more, steps, steps'⟩

end Search

section Table

variable {subject text : String} {pattern pattern' : Pattern}

theorem any_getElem?_eq {accepts accepts' : Char → Bool} {first second : List Char}
    (row : List.Forall₂ (fun char char' => accepts char = accepts' char') first second)
    (position : Nat) : first[position]?.any accepts = second[position]?.any accepts' := by
  induction row generalizing position with
  | nil => rfl
  | cons same _ ih =>
      cases position with
      | zero => exact same
      | succ position => exact ih position

theorem Operator.SameRow.alike {operator other : Operator}
    (same : SameRow subject text operator other) (offset : Nat) :
    Alike (chars subject) (chars text) offset offset operator other := by
  refine ⟨same.quantifier_eq, ?_⟩
  intro distance
  rw [acceptsAt, acceptsAt, List.getElem?_toArray, List.getElem?_toArray]
  exact any_getElem?_eq same.accepts_eq (offset + distance)

theorem Pattern.SameTable.alike (same : SameTable subject text pattern pattern')
    (stepLimit : Option Nat) (anchored : Bool) (offset : Nat) :
    Search.Alike (Matcher.search ⟨pattern, stepLimit⟩ anchored (chars subject))
      (Matcher.search ⟨pattern', stepLimit⟩ anchored (chars text)) offset offset
      pattern.operators pattern'.operators := by
  constructor
  · exact same.rows.imp fun _ _ row => row.alike offset
  · intro distance
    simp only [Search.mayEndAt, Matcher.search, size_chars, same.length_eq]

theorem Pattern.SameTable.answersAlike (same : SameTable subject text pattern pattern')
    (stepLimit : Option Nat) :
    Matcher.AnswersAlike subject text ⟨pattern, stepLimit⟩ ⟨pattern', stepLimit⟩ := by
  have budget (anchored : Bool) : Search.SameBudget
      (Matcher.search ⟨pattern, stepLimit⟩ anchored (chars subject))
      (Matcher.search ⟨pattern', stepLimit⟩ anchored (chars text))
      Account.initial.steps Account.initial.steps := fun _ => rfl
  have whole := Search.inStep_answer (same.alike stepLimit true 0) (budget true)
  have parts := Search.inStep_answerEach (same.alike stepLimit false)
    (List.range (subject.length + 1)) (budget false)
  obtain ⟨fullMatch_same, _, spent, spent'⟩ := whole
  obtain ⟨find_same, _, spentEach, spentEach'⟩ := parts
  have fullMatch_eq : Matcher.fullMatch ⟨pattern, stepLimit⟩ subject =
      Matcher.fullMatch ⟨pattern', stepLimit⟩ text := by
    rw [Matcher.fullMatch_eq, Matcher.fullMatch_eq]
    exact fullMatch_same
  refine ⟨fullMatch_eq, ?_, ?_, ?_, ?_⟩
  · rw [Matcher.find_eq, Matcher.find_eq, ← List.range_eq_range', ← List.range_eq_range',
      ← same.length_eq]
    exact find_same
  · rw [Matcher.isMatch, Matcher.isMatch, fullMatch_eq]
  · rw [Matcher.reportFullMatch_eq, Matcher.reportFullMatch_eq]
    exact spent.trans spent'.symm
  · rw [Matcher.reportFind_eq, Matcher.reportFind_eq, size_chars, size_chars, ← same.length_eq]
    exact spentEach.trans spentEach'.symm

end Table

section Rename

variable (recode : Char → Char)

def CharSet.rename (set : CharSet) : CharSet := .ofList (set.toList.map recode)

def Atom.rename : Atom → Atom
  | .literal char => .literal (recode char)
  | .any => .any
  | .oneOf set => .oneOf (set.rename recode)
  | .noneOf set => .noneOf (set.rename recode)

def Operator.rename (operator : Operator) : Operator :=
  { operator with atom := operator.atom.rename recode }

/-- The pattern with its literals and the members of its classes renamed. -/
def Pattern.rename (pattern : Pattern) : Pattern :=
  ⟨pattern.operators.map (Operator.rename recode)⟩

variable {recode} (injective : Function.Injective recode)

include injective

theorem CharSet.contains_rename (set : CharSet) (char : Char) :
    (set.rename recode).contains (recode char) = set.contains char := by
  rw [Bool.eq_iff_iff, CharSet.rename, contains_ofList, contains_iff]
  exact List.mem_map_of_injective injective

theorem Atom.accepts_rename (atom : Atom) (char : Char) :
    (atom.rename recode).accepts (recode char) = atom.accepts char := by
  cases atom with
  | literal expected =>
      rw [Bool.eq_iff_iff, Atom.rename, accepts, accepts, beq_iff_eq, beq_iff_eq]
      exact injective.eq_iff
  | any => rfl
  | oneOf set => exact set.contains_rename injective char
  | noneOf set => exact congrArg not (set.contains_rename injective char)

theorem Pattern.sameTable_rename (pattern : Pattern) (subject : String) :
    SameTable subject (subject.map recode) pattern (pattern.rename recode) := by
  constructor
  · rw [← String.length_toList, ← String.length_toList, String.toList_map, List.length_map]
  · apply List.forall₂_map_right_iff.mpr
    apply List.forall₂_same.mpr
    intro operator _
    refine ⟨rfl, ?_⟩
    rw [String.toList_map]
    apply List.forall₂_map_right_iff.mpr
    apply List.forall₂_same.mpr
    intro char _
    exact (operator.atom.accepts_rename injective char).symm

end Rename

/-- Answers and steps depend on the quantifiers, on the length of the subject, and on which
operators accept the characters at which offsets.  So they stay the same when the characters of
the pattern and of the subject are renamed. -/
theorem Matcher.answersAlike_of_table (stepLimit : Option Nat) :
    (∀ (pattern other : Pattern) (subject text : String),
      pattern.SameTable subject text other →
      AnswersAlike subject text ⟨pattern, stepLimit⟩ ⟨other, stepLimit⟩) ∧
    (∀ recode : Char → Char, Function.Injective recode →
      ∀ (pattern : Pattern) (subject : String),
        AnswersAlike subject (subject.map recode) ⟨pattern, stepLimit⟩
          ⟨pattern.rename recode, stepLimit⟩) := by
  constructor
  · intro pattern other subject text same
    exact same.answersAlike stepLimit
  · intro recode injective pattern subject
    exact (pattern.sameTable_rename injective subject).answersAlike stepLimit

/-- Another pattern on another subject, and a renaming that changes the order of the characters
and the width of their encodings.  Each search needs all the steps of its limit. -/
theorem Matcher.answersAlike_of_table_reordered :
    let pattern : Pattern :=
      ⟨[⟨.oneOf (.ofList ['a', 'b']), .zeroOrMore⟩, ⟨.literal 'b', .once⟩]⟩
    let other : Pattern := ⟨[⟨.noneOf (.ofList ['a']), .zeroOrMore⟩, ⟨.literal 'é', .once⟩]⟩
    let recode : Char → Char := Equiv.swap 'a' 'é'
    let found : Match := ⟨.between 0 3, [[.single 0, .single 1], [.single 2]]⟩
    Matcher.find ⟨pattern, some 5⟩ "abba" = .ok (some found) ∧
      pattern.SameTable "abba" "zééz" other ∧
      AnswersAlike "abba" "zééz" ⟨pattern, some 5⟩ ⟨other, some 5⟩ ∧
      Function.Injective recode ∧
      AnswersAlike "abba" ("abba".map recode) ⟨pattern, some 5⟩
        ⟨pattern.rename recode, some 5⟩ := by
  intro pattern other recode found
  have answered : Matcher.find ⟨pattern, some 5⟩ "abba" = .ok (some found) := by decide +kernel
  have same : pattern.SameTable "abba" "zééz" other := by
    refine ⟨rfl, .cons ⟨rfl, ?_⟩ (.cons ⟨rfl, ?_⟩ .nil)⟩
    · decide +kernel
    · decide +kernel
  have injective : Function.Injective recode := (Equiv.swap 'a' 'é').injective
  obtain ⟨table, renamed⟩ := answersAlike_of_table (some 5)
  exact ⟨answered, same, table pattern other "abba" "zééz" same, injective,
    renamed recode injective pattern "abba"⟩

end PatternMatcher
