import PatternMatcher.Pattern.Printer
import PatternMatcher.Search.Progress
import PatternMatcher.Text.Plain
import PatternMatcher.Text.Quoted

/-!
# Log records

Reading a pattern and searching a subject can be followed through log records.
A record is written on a line of its own; a message of several lines is
continued behind an indentation.
-/

namespace PatternMatcher

inductive LogLevel where
  | debug
  | trace
  deriving DecidableEq, Repr

namespace LogLevel

def name : LogLevel → String
  | debug => "DEBUG"
  | trace => "TRACE"

/-- Whether records of a level are shown when the second level is asked for. -/
def isShownAt : LogLevel → LogLevel → Bool
  | trace, debug => false
  | _, _ => true

end LogLevel

structure LogRecord where
  level : LogLevel
  /-- The part of the program that tells. -/
  target : String
  message : String
  deriving DecidableEq, Repr

namespace LogRecord

def compiled (source : String) (pattern : Pattern) : LogRecord :=
  { level := .debug
    target := "tinyre::pattern::parser"
    message := s!"compiled {quote source} into {pattern.size} operators" }

def testing (pattern : Pattern) (subjects : Nat) : LogRecord :=
  { level := .debug
    target := "tinyre"
    message := s!"testing {subjects} subjects against {pattern.render}" }

def ofEvent (event : SearchEvent) : LogRecord :=
  { level := .trace
    target := "tinyre::pattern::matcher"
    message :=
      match event with
      | .tooFew index operator count offset =>
          s!"op {index} ({operator.render}) matched {count} < {operator.min} at {offset}"
      | .gaveBack index count => s!"op {index} backtracks to {count}"
      | .matched start stop => s!"matched [{start}, {stop})" }

def indentation : List Char := ['\n', ' ', ' ', ' ', ' ']

def indent (message : String) : String :=
  .ofList (message.toList.flatMap fun char => if char = '\n' then indentation else [char])

def line (record : LogRecord) : String :=
  plainText s!"[{record.level.name} {record.target}] {indent record.message}\n"

/-- The records shown at a level, none if none is asked for. -/
def shownAt (level : Option LogLevel) (records : List LogRecord) : List LogRecord :=
  match level with
  | none => []
  | some level => records.filter fun record => record.level.isShownAt level

end LogRecord

end PatternMatcher
