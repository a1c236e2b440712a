import PatternMatcher.Pattern.Basic

/-!
# Reading patterns

A pattern is read one character at a time.  Between two atoms the reader is
`ready`; a backslash or an opening bracket leaves something open, and a pattern
that ends there is refused with the position where it was opened.

A quantifier replaces the quantifier of the operator before it, so of several
in a row the last one counts.  `PatternReader.readAll_append` says that reading a
text in two parts is reading it whole.
-/

namespace PatternMatcher

/-- Why a text is no pattern.  Positions count characters from the beginning. -/
inductive PatternError where
  /-- A quantifier without an operator before it. -/
  | danglingQuantifier (quantifier : Char) (position : Nat)
  /-- A class without its closing bracket. -/
  | unterminatedClass (position : Nat)
  /-- A backslash at the very end. -/
  | trailingEscape (position : Nat)
  deriving DecidableEq, Repr

def PatternError.message : PatternError → String
  | danglingQuantifier quantifier position =>
      s!"quantifier '{quantifier}' at position {position} has nothing to repeat"
  | unterminatedClass position =>
      s!"character class opened at position {position} is never closed"
  | trailingEscape position =>
      s!"escape at position {position} is not followed by a character"

def Quantifier.ofChar? : Char → Option Quantifier
  | '?' => some .optional
  | '*' => some .zeroOrMore
  | '+' => some .oneOrMore
  | _ => none

/-- A class whose closing bracket has not been read. -/
structure OpenClass where
  openedAt : Nat
  negated : Bool := false
  /-- Whether the last character read is an unescaped backslash. -/
  escaped : Bool := false
  /-- The members read, latest first. -/
  members : List Char := []
  deriving DecidableEq

namespace OpenClass

def close (opened : OpenClass) : Atom :=
  let set := CharSet.ofList opened.members
  if opened.negated then .noneOf set else .oneOf set

def read (opened : OpenClass) (char : Char) : Atom ⊕ OpenClass :=
  if opened.escaped then
    .inr { opened with escaped := false, members := char :: opened.members }
  else if char = '\\' then .inr { opened with escaped := true }
  else if char = '^' ∧ opened.negated = false ∧ opened.members = [] then
    .inr { opened with negated := true }
  else if char = ']' then .inl opened.close
  else .inr { opened with members := char :: opened.members }

end OpenClass

/-- What the characters read so far leave open. -/
inductive ReadMode where
  | ready
  | escape (position : Nat)
  | inClass (opened : OpenClass)
  deriving DecidableEq

structure PatternReader where
  /-- The number of characters read. -/
  position : Nat := 0
  /-- The operators read, latest first. -/
  operators : List Operator := []
  mode : ReadMode := .ready
  deriving DecidableEq

namespace PatternReader

def push (reader : PatternReader) (atom : Atom) : PatternReader :=
  { position := reader.position + 1
    operators := ⟨atom, .once⟩ :: reader.operators
    mode := .ready }

def enter (reader : PatternReader) (mode : ReadMode) : PatternReader :=
  { reader with position := reader.position + 1, mode }

def quantify (reader : PatternReader) (char : Char) (quantifier : Quantifier) :
    Except PatternError PatternReader :=
  match reader.operators with
  | [] => .error (.danglingQuantifier char reader.position)
  | latest :: earlier =>
      .ok { reader with
        position := reader.position + 1
        operators := { latest with quantifier } :: earlier }

def read (reader : PatternReader) (char : Char) : Except PatternError PatternReader :=
  match reader.mode with
  | .escape _ => .ok (reader.push (.literal char))
  | .inClass opened =>
      match opened.read char with
      | .inl atom => .ok (reader.push atom)
      | .inr stillOpen => .ok (reader.enter (.inClass stillOpen))
  | .ready =>
      if char = '\\' then .ok (reader.enter (.escape reader.position))
      else if char = '[' then .ok (reader.enter (.inClass { openedAt := reader.position }))
      else if char = '.' then .ok (reader.push .any)
      else
        match Quantifier.ofChar? char with
        | some quantifier => reader.quantify char quantifier
        | none => .ok (reader.push (.literal char))

def readAll (reader : PatternReader) (text : List Char) :
    Except PatternError PatternReader :=
  text.foldlM read reader

/-- The pattern read, if nothing is left open. -/
def finish (reader : PatternReader) : Except PatternError Pattern :=
  match reader.mode with
  | .ready => .ok ⟨reader.operators.reverse⟩
  | .escape position => .error (.trailingEscape position)
  | .inClass opened => .error (.unterminatedClass opened.openedAt)

@[simp] theorem readAll_nil (reader : PatternReader) : reader.readAll [] = .ok reader := rfl

theorem readAll_cons (reader : PatternReader) (char : Char) (text : List Char) :
    reader.readAll (char :: text) = (reader.read char).bind (·.readAll text) := rfl

theorem readAll_append (reader : PatternReader) (front back : List Char) :
    reader.readAll (front ++ back) = (reader.readAll front).bind (·.readAll back) := by
  simp only [readAll, List.foldlM_append]
  rfl

end PatternReader

namespace Pattern

def ofChars (text : List Char) : Except PatternError Pattern :=
  (PatternReader.readAll {} text).bind PatternReader.finish

def parse (text : String) : Except PatternError Pattern :=
  ofChars text.toList

end Pattern

end PatternMatcher
