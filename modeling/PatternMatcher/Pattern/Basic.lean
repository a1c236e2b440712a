import PatternMatcher.CharSet
import PatternMatcher.Span

/-!
# Patterns

A pattern is a sequence of operators.  An operator is an atom, which accepts or
refuses one character, and a quantifier, which says how many characters in a
row the atom may take.
-/

namespace PatternMatcher

/-- A test on one character. -/
inductive Atom where
  | literal (char : Char)
  | any
  | oneOf (set : CharSet)
  | noneOf (set : CharSet)
  deriving DecidableEq, Inhabited

def Atom.accepts : Atom → Char → Bool
  | .literal expected, char => expected == char
  | .any, _ => true
  | .oneOf set, char => set.contains char
  | .noneOf set, char => !set.contains char

inductive Quantifier where
  | once
  | optional
  | zeroOrMore
  | oneOrMore
  deriving DecidableEq, Repr, Inhabited

namespace Quantifier

def min : Quantifier → Nat
  | once | oneOrMore => 1
  | optional | zeroOrMore => 0

def max? : Quantifier → Option Nat
  | once | optional => some 1
  | zeroOrMore | oneOrMore => none

def allowsMore (quantifier : Quantifier) (count : Nat) : Bool :=
  match quantifier.max? with
  | none => true
  | some max => count < max

theorem allowsMore_iff {quantifier : Quantifier} {count : Nat} :
    quantifier.allowsMore count = true ↔
      ∀ max, quantifier.max? = some max → count < max := by
  cases quantifier <;> simp [allowsMore, max?]

end Quantifier

structure Operator where
  atom : Atom
  quantifier : Quantifier := .once
  deriving DecidableEq, Inhabited

namespace Operator

def min (operator : Operator) : Nat := operator.quantifier.min

def max? (operator : Operator) : Option Nat := operator.quantifier.max?

/-- Whether the subject has a character at an offset which the atom takes. -/
def acceptsAt (operator : Operator) (subject : Array Char) (offset : Nat) : Bool :=
  subject[offset]?.any operator.atom.accepts

theorem lt_size_of_acceptsAt {operator : Operator} {subject : Array Char} {offset : Nat}
    (accepted : operator.acceptsAt subject offset = true) : offset < subject.size := by
  apply Decidable.byContradiction
  intro beyond
  simp [acceptsAt, Array.getElem?_eq_none (Nat.not_lt.mp beyond)] at accepted

/-- One repetition at an offset: an atom takes exactly one character. -/
def attempt (operator : Operator) (subject : Array Char) (offset : Nat) : Option Span :=
  if operator.acceptsAt subject offset then some (.single offset) else none

/-- The number of repetitions an operator has after taking as many as it can
from an offset on, when it has `taken` already. -/
def greedyCount (operator : Operator) (subject : Array Char) (offset taken : Nat) : Nat :=
  if _more : operator.quantifier.allowsMore taken ∧ operator.acceptsAt subject offset then
    greedyCount operator subject (offset + 1) (taken + 1)
  else taken
termination_by subject.size - offset
decreasing_by
  have := lt_size_of_acceptsAt _more.2
  omega

theorem le_greedyCount {operator : Operator} {subject : Array Char} {offset taken : Nat} :
    taken ≤ operator.greedyCount subject offset taken := by
  fun_induction greedyCount operator subject offset taken with
  | case1 offset taken more ih => omega
  | case2 offset taken stuck => exact Nat.le_refl _

theorem greedyCount_le {operator : Operator} {subject : Array Char} {offset taken : Nat} :
    operator.greedyCount subject offset taken ≤ taken + (subject.size - offset) := by
  fun_induction greedyCount operator subject offset taken with
  | case1 offset taken more ih =>
      have := lt_size_of_acceptsAt more.2
      omega
  | case2 offset taken stuck => omega

end Operator

structure Pattern where
  operators : List Operator
  deriving DecidableEq, Inhabited

namespace Pattern

def empty : Pattern := ⟨[]⟩

def size (pattern : Pattern) : Nat := pattern.operators.length

def isEmpty (pattern : Pattern) : Bool := pattern.operators.isEmpty

/-- Whether every operator may be left out. -/
def acceptsEmpty (pattern : Pattern) : Bool :=
  pattern.operators.all fun operator => operator.min == 0

end Pattern

end PatternMatcher
