/-!
# Text without terminal controls

Diagnostics that do not go to a terminal carry no terminal control sequences
and no control characters besides white space.  Which characters belong to a
sequence is decided as a terminal of the VT500 series would decide it.

The filter passes through `ControlPhase`s.  Text is copied until a character comes
that may not be copied; from there on characters are dropped until one comes
that the current phase does not swallow.
-/

namespace PatternMatcher

inductive ControlPhase where
  | ground
  /-- Behind the escape character. -/
  | escape
  /-- Behind an escape character and a character between space and slash. -/
  | escapeParameters
  /-- In a control sequence, which a letter ends. -/
  | sequence
  /-- At the beginning of a device control string. -/
  | deviceEntry
  /-- In the parameters of a device control string. -/
  | deviceParameters
  /-- Between the parameters and the final letter of a device control string. -/
  | deviceIntermediate
  /-- In a string that a string terminator ends. -/
  | string
  /-- In an operating system command, which the bell ends. -/
  | command
  deriving DecidableEq, Repr

namespace ControlPhase

/-- White space that every phase but the strings copies. -/
def isBlank (char : Char) : Bool :=
  char ∈ [' ', '\t', '\n', '\x0c', '\r']

def afterEscape (char : Char) : ControlPhase :=
  if char = '[' then sequence
  else if char = ']' then command
  else if char = 'P' then deviceEntry
  else if char = 'X' ∨ char = '^' ∨ char = '_' then string
  else if char < ' ' ∨ char = '\x7f' then escape
  else if char ≤ '/' then escapeParameters
  else ground

/-- The phase behind a character in the head of a device control string.  A
letter ends the head, and what cannot stand where it does spoils the string. -/
def inDevice (phase : ControlPhase) (char : Char) : ControlPhase :=
  if char < ' ' ∨ char = '\x7f' then phase
  else if '@' ≤ char then string
  else if char ≤ '/' then deviceIntermediate
  else if phase = deviceIntermediate then string
  else if phase = deviceParameters ∧ '<' ≤ char then string
  else deviceParameters

/-- The phase behind a character.  The string terminator is the byte `9C`,
which the encoding of a longer character may contain. -/
def next (phase : ControlPhase) (char : Char) : ControlPhase :=
  if char = '\x1b' then escape
  else if char = '\x18' ∨ char = '\x1a' then ground
  else if char < '\x80' then
    match phase with
    | ground => ground
    | escape => afterEscape char
    | escapeParameters => if '0' ≤ char ∧ char ≤ '~' then ground else escapeParameters
    | sequence => if '@' ≤ char ∧ char ≤ '~' then ground else sequence
    | deviceEntry | deviceParameters | deviceIntermediate => phase.inDevice char
    | string => string
    | command => if char = '\x07' then ground else command
  else if phase = string ∧ (String.utf8EncodeChar char).contains 0x9c then ground
  else phase

def copies (phase : ControlPhase) (char : Char) : Bool :=
  match phase with
  | ground => ' ' ≤ char ∧ char ≠ '\x7f' ∨ isBlank char
  | escape | escapeParameters | sequence => char < ' ' ∧ isBlank char
  | deviceEntry | deviceParameters | deviceIntermediate | string | command => false

end ControlPhase

/-- Whether the filter copies or drops, and the phase it has last seen. -/
structure ControlFilter where
  copying : Bool := false
  phase : ControlPhase := .ground
  deriving DecidableEq, Repr

/-- The filter behind a character, and whether the character is copied.  While
text is copied the phase changes only where a control function begins. -/
def ControlFilter.step (filter : ControlFilter) (char : Char) : ControlFilter × Bool :=
  if filter.copying ∧ ControlPhase.ground.copies char then
    ({ filter with phase := if '\x80' ≤ char then .ground else filter.phase }, true)
  else
    let phase :=
      if filter.copying ∧ char ∈ ['\x18', '\x1a', '\x1b'] then
        ControlPhase.ground.next char
      else filter.phase
    ({ copying := phase.copies char, phase := phase.next char }, phase.copies char)

def ControlFilter.run (filter : ControlFilter) : List Char → List Char
  | [] => []
  | char :: text =>
      let (filter, copied) := filter.step char
      if copied then char :: filter.run text else filter.run text

def plainText (text : String) : String :=
  .ofList (ControlFilter.run {} text.toList)

end PatternMatcher
