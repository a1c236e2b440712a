import PatternMatcher.Text.Plain

/-!
# Command-line options

What a command line can ask for, and what is said about one that makes no
sense.
-/

namespace PatternMatcher

structure Options where
  pattern : String
  subjects : List String := []
  /-- Look for a matching part of each subject. -/
  search : Bool := false
  /-- Show what each operator took. -/
  ranges : Bool := false
  /-- Show the operators of the pattern and nothing else. -/
  explain : Bool := false
  stepLimit : Option Nat := none
  /-- How many times more detail was asked for. -/
  verbosity : Nat := 0
  deriving DecidableEq, Repr, Inhabited

inductive Flag where
  | search
  | ranges
  | explain
  | verbose
  | help
  | version
  deriving DecidableEq, Repr

namespace Flag

def ofShort? : Char → Option Flag
  | 's' => some search
  | 'r' => some ranges
  | 'v' => some verbose
  | 'h' => some help
  | 'V' => some version
  | _ => none

def ofLong? (name : String) : Option Flag :=
  if name = "search" then some search
  else if name = "ranges" then some ranges
  else if name = "explain" then some explain
  else if name = "verbose" then some verbose
  else if name = "help" then some help
  else if name = "version" then some version
  else none

/-- The way a message names the flag.  One that may be repeated has dots. -/
def display : Flag → String
  | search => "--search"
  | ranges => "--ranges"
  | explain => "--explain"
  | verbose => "--verbose..."
  | help => "--help"
  | version => "--version"

end Flag

def limitOption : String := "step-limit"

def limitDisplay : String := "--step-limit <N>"

/-- The greatest step limit, the greatest number of 64 bits. -/
def maxLimit : Nat := 18446744073709551615

inductive NumberError where
  | empty
  | invalidDigit
  | tooLarge
  deriving DecidableEq, Repr

def NumberError.message : NumberError → String
  | empty => "cannot parse integer from empty string"
  | invalidDigit => "invalid digit found in string"
  | tooLarge => "number too large to fit in target type"

/-- Read digits from left to right behind a number read so far.  The first
character that is no digit or takes the number above the greatest one decides
about the error. -/
def readDigits (number : Nat) : List Char → Except NumberError Nat
  | [] => .ok number
  | char :: rest =>
      if char.isDigit then
        let number := number * 10 + (char.toNat - '0'.toNat)
        if number ≤ maxLimit then readDigits number rest else .error .tooLarge
      else .error .invalidDigit

/-- Read a step limit: digits, perhaps with a plus sign in front. -/
def readLimit : List Char → Except NumberError Nat
  | [] => .error .empty
  | ['+'] => .error .invalidDigit
  | '+' :: digits => readDigits 0 digits
  | digits => readDigits 0 digits

inductive UsageError where
  | unexpectedArgument (argument : String)
  /-- A flag was given a value. -/
  | unexpectedValue (value : String) (flag : Flag)
  | repeatedFlag (flag : Flag)
  | repeatedLimit
  | missingLimit
  | invalidLimit (value : String) (cause : NumberError)
  | missingPattern
  deriving DecidableEq, Repr

/-- What is said about the error.  Each text from the command line is freed of
terminal controls on its own, so that it cannot reach into the words around it. -/
def UsageError.message : UsageError → String
  | unexpectedArgument argument => s!"unexpected argument '{plainText argument}' found"
  | unexpectedValue value flag =>
      s!"unexpected value '{plainText value}' for '{flag.display}' found; no more were expected"
  | repeatedFlag flag => s!"the argument '{flag.display}' cannot be used multiple times"
  | repeatedLimit => s!"the argument '{limitDisplay}' cannot be used multiple times"
  | missingLimit => s!"a value is required for '{limitDisplay}' but none was supplied"
  | invalidLimit value cause =>
      s!"invalid value '{plainText value}' for '{limitDisplay}': {cause.message}"
  | missingPattern => "the following required arguments were not provided:\n  <PATTERN>"

def usage : String := "Usage: tinyre [OPTIONS] <PATTERN> [SUBJECT]..."

def helpText : String :=
  "A small backtracking pattern matcher for a simplified regular-expression syntax.\n\n"
    ++ usage ++ "\n\n"
    ++ "Arguments:\n"
    ++ "  <PATTERN>     Pattern to match\n"
    ++ "  [SUBJECT]...  Subjects to test; read one per line from stdin if omitted\n\n"
    ++ "Options:\n"
    ++ "  -s, --search          Search for a matching substring instead of matching the whole subject\n"
    ++ "  -r, --ranges          Print the range consumed by each operator\n"
    ++ "      --explain         Print the compiled operators and exit\n"
    ++ "      --step-limit <N>  Give up on a subject after this many backtracking steps\n"
    ++ "  -v, --verbose...      Increase log verbosity (-v debug, -vv trace)\n"
    ++ "  -h, --help            Print help\n"
    ++ "  -V, --version         Print version\n"

def versionText : String := "tinyre 0.1.0\n"

end PatternMatcher
