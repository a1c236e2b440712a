import PatternMatcher.CommandLine.Arguments
import PatternMatcher.Log
import PatternMatcher.Matcher
import PatternMatcher.Pattern.Parser
import PatternMatcher.Text.Lines

/-!
# Running the program

A run tests subjects one after another against one pattern.  It is a function
from the options and the bytes of the standard input to what is written and
the exit code: 0 if every subject matched, 1 if some did not, 2 if something
went wrong.
-/

namespace PatternMatcher

structure Output where
  exitCode : Nat
  stdout : String
  stderr : String
  deriving DecidableEq, Repr

inductive RunError where
  | invalidPattern (source : String) (cause : PatternError)
  | zeroStepLimit
  | unreadableInput
  | searchFailed (subject : String) (cause : SearchError)
  deriving DecidableEq, Repr

def RunError.message : RunError → String
  | invalidPattern source cause => s!"invalid pattern {quote source}: {cause.message}"
  | zeroStepLimit => "step limit must be at least 1"
  | unreadableInput =>
      "failed to read subjects from stdin: stream did not contain valid UTF-8"
  | searchFailed subject cause => s!"matching {quote subject}: {cause.message}"

/-- The subjects in the standard input, one on each line.  Bytes that are not
UTF-8 spoil all of them. -/
def subjectsOfInput (stdin : ByteArray) : Except RunError (List String) :=
  match String.fromUTF8? stdin with
  | none => .error .unreadableInput
  | some text => .ok ((lines text.toList).map String.ofList)

theorem subjectsOfInput_toUTF8 (text : String) :
    subjectsOfInput text.toUTF8 = .ok ((lines text.toList).map String.ofList) := by
  have valid : text.toUTF8.IsValidUTF8 := text.isValidUTF8
  rw [subjectsOfInput, String.fromUTF8?, dif_pos valid]
  rfl

namespace Options

def logLevel (options : Options) : Option LogLevel :=
  match options.verbosity with
  | 0 => none
  | 1 => some .debug
  | _ => some .trace

/-- The subjects to test: those of the command line, or else those of the
standard input. -/
def allSubjects (options : Options) (stdin : ByteArray) : Except RunError (List String) :=
  if options.subjects = [] then subjectsOfInput stdin else .ok options.subjects

def ask (options : Options) (matcher : Matcher) (subject : String) : Report :=
  if options.search then matcher.reportFind subject.toList.toArray
  else matcher.reportFullMatch subject.toList.toArray

end Options

def Operator.explain (operator : Operator) (index : Nat) : String :=
  let max := match operator.max? with
    | none => "inf"
    | some max => toString max
  s!"{index}: {operator.atom.render} \x7b{operator.min},{max}\x7d\n"

def Pattern.explain (pattern : Pattern) : String :=
  .join (pattern.operators.zipIdx.map fun (operator, index) => operator.explain index)

def operatorLine (index : Nat) (operator : Operator) (consumed : Span)
    (repetitions : List Span) : String :=
  let shown := " ".intercalate (repetitions.map Span.render)
  s!"  {index}: {operator.render} {consumed.render} [{shown}]\n"

def rangeLines (pattern : Pattern) (found : Match) : String :=
  s!"  span {found.span.render}\n" ++
    .join ((pattern.operators.zip found.consumed).zipIdx.map fun ((operator, span), index) =>
      operatorLine index operator span ((found.repetitions? index).getD []))

def subjectLines (options : Options) (pattern : Pattern) (subject : String) :
    Option Match → String
  | none => s!"NO_MATCH {subject}\n"
  | some found =>
      s!"MATCH {subject}\n" ++ if options.ranges then rangeLines pattern found else ""

/-- What testing subjects comes to. -/
structure Tested where
  stdout : String := ""
  records : List LogRecord := []
  /-- Whether all of them matched. -/
  verdict : Except RunError Bool

/-- Test subjects until one of them goes wrong. -/
def testEach (options : Options) (matcher : Matcher) : List String → Tested
  | [] => { verdict := .ok true }
  | subject :: later =>
      let report := options.ask matcher subject
      let records := report.events.toList.map LogRecord.ofEvent
      match report.answer with
      | .error cause => { records, verdict := .error (.searchFailed subject cause) }
      | .ok answer =>
          let rest := testEach options matcher later
          { stdout := subjectLines options matcher.pattern subject answer ++ rest.stdout
            records := records ++ rest.records
            verdict := rest.verdict.map (answer.isSome && ·) }

namespace Options

def test (options : Options) (pattern : Pattern) (stdin : ByteArray) : Tested :=
  if options.stepLimit = some 0 then { verdict := .error .zeroStepLimit }
  else
    match options.allSubjects stdin with
    | .error error => { verdict := .error error }
    | .ok subjects =>
        let tested := testEach options { pattern, stepLimit := options.stepLimit } subjects
        { tested with records := .testing pattern subjects.length :: tested.records }

/-- All that a run does, before it is written. -/
def perform (options : Options) (stdin : ByteArray) : Tested :=
  match Pattern.parse options.pattern with
  | .error cause => { verdict := .error (.invalidPattern options.pattern cause) }
  | .ok pattern =>
      let tested :=
        if options.explain then { stdout := pattern.explain, verdict := .ok true }
        else options.test pattern stdin
      { tested with records := .compiled options.pattern pattern :: tested.records }

def readsInput (options : Options) : Bool :=
  options.subjects.isEmpty && !options.explain && options.stepLimit != some 0 &&
    (Pattern.parse options.pattern).isOk

end Options

def exitCode : Except RunError Bool → Nat
  | .ok true => 0
  | .ok false => 1
  | .error _ => 2

def errorLine : Except RunError Bool → String
  | .ok _ => ""
  | .error error => s!"tinyre: {error.message}\n"

def Options.run (options : Options) (stdin : ByteArray) : Output :=
  let tested := options.perform stdin
  let shown := LogRecord.shownAt options.logLevel tested.records
  { exitCode := exitCode tested.verdict
    stdout := tested.stdout
    stderr := .join (shown.map LogRecord.line) ++ errorLine tested.verdict }

def Notice.output : Notice → Output
  | help => { exitCode := 0, stdout := helpText, stderr := "" }
  | version => { exitCode := 0, stdout := versionText, stderr := "" }
  | misuse error =>
      { exitCode := 2
        stdout := ""
        stderr := s!"error: {error.message}\n\n{usage}\n\nFor more information, try '--help'.\n" }

/-- Run the program on its arguments and the bytes of its standard input. -/
def runArguments (arguments : List String) (stdin : ByteArray) : Output :=
  match Options.ofArguments arguments with
  | .error notice => notice.output
  | .ok options => options.run stdin

end PatternMatcher
