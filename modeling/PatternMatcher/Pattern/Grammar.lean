import Mathlib.Data.List.Forall2
import PatternMatcher.Pattern.Parser
import PatternMatcher.Pattern.Printer

/-!
# The grammar of patterns

A derivation says how each character of a text is meant: as a character of its
own, escaped, as a bracket of a class, or as a quantifier.  Its `text` is what
is written, and `Means` relates it to what is meant, a class to the set with the
members written in it.  `WellFormed` excludes bare characters where they would
mean something else.
-/

namespace PatternMatcher

inductive WrittenMember where
  | bare (char : Char)
  | escaped (char : Char)
  deriving DecidableEq

namespace WrittenMember

def text : WrittenMember → List Char
  | bare char => [char]
  | escaped char => ['\\', char]

def char : WrittenMember → Char
  | bare char | escaped char => char

def WellFormed : WrittenMember → Prop
  | bare char => char ≠ '\\' ∧ char ≠ ']'
  | escaped _ => True

end WrittenMember

inductive WrittenAtom where
  | bare (char : Char)
  | any
  | escaped (char : Char)
  | oneOf (body : List WrittenMember)
  | noneOf (body : List WrittenMember)
  deriving DecidableEq

namespace WrittenAtom

def text : WrittenAtom → List Char
  | bare char => [char]
  | any => ['.']
  | escaped char => ['\\', char]
  | oneOf body => '[' :: (body.flatMap WrittenMember.text ++ [']'])
  | noneOf body => '[' :: '^' :: (body.flatMap WrittenMember.text ++ [']'])

/-- A bare closing bracket and a bare caret are literals; a class that is not
negated does not begin with a bare caret. -/
def WellFormed : WrittenAtom → Prop
  | bare char => char ∉ ['\\', '[', '.', '?', '*', '+']
  | any | escaped _ => True
  | oneOf body =>
      body.head? ≠ some (.bare '^') ∧ ∀ member ∈ body, member.WellFormed
  | noneOf body => ∀ member ∈ body, member.WellFormed

/-- What an atom means.  The set of a class is known by its members. -/
inductive Means : WrittenAtom → Atom → Prop where
  | bare (char : Char) : Means (.bare char) (.literal char)
  | any : Means .any .any
  | escaped (char : Char) : Means (.escaped char) (.literal char)
  | oneOf {body : List WrittenMember} {set : CharSet} :
      (∀ char, char ∈ set.toList ↔ char ∈ body.map WrittenMember.char) →
      Means (.oneOf body) (.oneOf set)
  | noneOf {body : List WrittenMember} {set : CharSet} :
      (∀ char, char ∈ set.toList ↔ char ∈ body.map WrittenMember.char) →
      Means (.noneOf body) (.noneOf set)

end WrittenAtom

/-- An atom and the quantifiers written behind it. -/
structure WrittenItem where
  atom : WrittenAtom
  quantifiers : List Quantifier
  deriving DecidableEq

namespace WrittenItem

def text (item : WrittenItem) : List Char :=
  item.atom.text ++ item.quantifiers.flatMap Quantifier.spelling

/-- Every quantifier written is a character. -/
def WellFormed (item : WrittenItem) : Prop :=
  item.atom.WellFormed ∧ .once ∉ item.quantifiers

/-- What an item means: the last quantifier counts. -/
structure Means (item : WrittenItem) (operator : Operator) : Prop where
  atom : item.atom.Means operator.atom
  quantifier_eq : operator.quantifier = item.quantifiers.getLast?.getD .once

end WrittenItem

/-- `Derives items text operators` says that a text is written as the given
items, which mean the given operators. -/
structure Derives (items : List WrittenItem) (text : List Char)
    (operators : List Operator) : Prop where
  wellFormed : ∀ item ∈ items, item.WellFormed
  text_eq : items.flatMap WrittenItem.text = text
  means : List.Forall₂ WrittenItem.Means items operators

end PatternMatcher
