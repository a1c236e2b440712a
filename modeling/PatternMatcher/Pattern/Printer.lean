import PatternMatcher.Pattern.Basic

/-!
# Written form of patterns

Every pattern has one written form.  A character that would be read as
something else where it stands gets a backslash in front of it; outside a class
and inside one these are different characters.
-/

namespace PatternMatcher

/-- Characters escaped when written outside a class. -/
def isSpecial (char : Char) : Bool :=
  char ∈ ['\\', '[', ']', '.', '?', '*', '+']

/-- Characters escaped when written as members of a class. -/
def isSpecialInClass (char : Char) : Bool :=
  char ∈ ['\\', ']', '^']

/-- A character, behind a backslash if it is special. -/
def spellChar (special : Char → Bool) (char : Char) : List Char :=
  if special char then ['\\', char] else [char]

def CharSet.spelling (set : CharSet) : List Char :=
  set.toList.flatMap (spellChar isSpecialInClass)

def Atom.spelling : Atom → List Char
  | .literal char => spellChar isSpecial char
  | .any => ['.']
  | .oneOf set => '[' :: (set.spelling ++ [']'])
  | .noneOf set => '[' :: '^' :: (set.spelling ++ [']'])

def Quantifier.spelling : Quantifier → List Char
  | .once => []
  | .optional => ['?']
  | .zeroOrMore => ['*']
  | .oneOrMore => ['+']

def Operator.spelling (operator : Operator) : List Char :=
  operator.atom.spelling ++ operator.quantifier.spelling

def Pattern.spelling (pattern : Pattern) : List Char :=
  pattern.operators.flatMap Operator.spelling

def Atom.render (atom : Atom) : String := .ofList atom.spelling

def Quantifier.render (quantifier : Quantifier) : String := .ofList quantifier.spelling

def Operator.render (operator : Operator) : String := .ofList operator.spelling

def Pattern.render (pattern : Pattern) : String := .ofList pattern.spelling

end PatternMatcher
