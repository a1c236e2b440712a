import PatternMatcher.CommandLine.Options

/-!
# Reading a command line

Arguments are read from left to right into a draft of the options.  The value
of `--step-limit` may stand in the next argument; it is looked at only when the
draft goes on to something else, so an argument nobody knows is found first.
-/

namespace PatternMatcher

/-- What a command line leads to when it does not lead to a run. -/
inductive Notice where
  | help
  | version
  | misuse (error : UsageError)
  deriving DecidableEq, Repr

/-- A value that stands in an argument of its own. -/
inductive AwaitedValue where
  | nothing
  | limit
  | given (limit : String)
  deriving DecidableEq, Repr

/-- The options read so far. -/
structure Draft where
  /-- The pattern and the subjects, latest first. -/
  positionals : List String := []
  search : Bool := false
  ranges : Bool := false
  explain : Bool := false
  verbosity : Nat := 0
  stepLimit : Option Nat := none
  awaited : AwaitedValue := .nothing
  /-- Whether the rest of the arguments is taken as it stands. -/
  onlyPositionals : Bool := false
  deriving DecidableEq, Repr

namespace Draft

def setLimit (draft : Draft) (value : String) : Except UsageError Draft :=
  match draft.stepLimit, readLimit value.toList with
  | some _, _ => .error .repeatedLimit
  | none, .error cause => .error (.invalidLimit value cause)
  | none, .ok limit => .ok { draft with stepLimit := some limit }

def settle (draft : Draft) : Except UsageError Draft :=
  match draft.awaited with
  | .nothing => .ok draft
  | .limit => .error .missingLimit
  | .given value => { draft with awaited := .nothing }.setLimit value

def setFlag (draft : Draft) (flag : Flag) : Except Notice Draft :=
  match flag with
  | .search =>
      if draft.search then .error (.misuse (.repeatedFlag flag))
      else .ok { draft with search := true }
  | .ranges =>
      if draft.ranges then .error (.misuse (.repeatedFlag flag))
      else .ok { draft with ranges := true }
  | .explain =>
      if draft.explain then .error (.misuse (.repeatedFlag flag))
      else .ok { draft with explain := true }
  | .verbose => .ok { draft with verbosity := draft.verbosity + 1 }
  | .help => .error .help
  | .version => .error .version

def readFlag (draft : Draft) (flag : Flag) : Except Notice Draft :=
  match draft.settle with
  | .error error => .error (.misuse error)
  | .ok draft => draft.setFlag flag

def readShort (draft : Draft) : List Char → Except Notice Draft
  | [] => .ok draft
  | char :: rest =>
      match Flag.ofShort? char with
      | none => .error (.misuse (.unexpectedArgument (.ofList ['-', char])))
      | some flag =>
          match draft.readFlag flag with
          | .error notice => .error notice
          | .ok draft => draft.readShort rest

/-- The name and, behind the first equals sign, the value of an option. -/
def splitLong (text : List Char) : String × Option String :=
  let name := text.takeWhile (· ≠ '=')
  match text.drop name.length with
  | [] => (.ofList name, none)
  | _ :: value => (.ofList name, some (.ofList value))

def readLong (draft : Draft) (text : List Char) : Except Notice Draft :=
  let (name, value?) := splitLong text
  if name = limitOption then
    match draft.settle with
    | .error error => .error (.misuse error)
    | .ok draft =>
        match value? with
        | none => .ok { draft with awaited := .limit }
        | some value => (draft.setLimit value).mapError .misuse
  else
    match Flag.ofLong? name, value? with
    | none, _ => .error (.misuse (.unexpectedArgument ("--" ++ name)))
    | some flag, some value => .error (.misuse (.unexpectedValue value flag))
    | some flag, none => draft.readFlag flag

def readPositional (draft : Draft) (argument : String) : Except Notice Draft :=
  match draft.settle with
  | .error error => .error (.misuse error)
  | .ok draft => .ok { draft with positionals := argument :: draft.positionals }

def read (draft : Draft) (argument : String) : Except Notice Draft :=
  if draft.onlyPositionals then draft.readPositional argument
  else
    match argument.toList with
    | ['-', '-'] => .ok { draft with onlyPositionals := true }
    | '-' :: '-' :: text => draft.readLong text
    | '-' :: char :: rest => draft.readShort (char :: rest)
    | _ =>
        match draft.awaited with
        | .limit => .ok { draft with awaited := .given argument }
        | _ => draft.readPositional argument

def finish (draft : Draft) : Except Notice Options :=
  match draft.settle with
  | .error error => .error (.misuse error)
  | .ok draft =>
      match draft.positionals.reverse with
      | [] => .error (.misuse .missingPattern)
      | pattern :: subjects =>
          .ok
            { pattern
              subjects
              search := draft.search
              ranges := draft.ranges
              explain := draft.explain
              stepLimit := draft.stepLimit
              verbosity := draft.verbosity }

end Draft

def Options.ofArguments (arguments : List String) : Except Notice Options :=
  (arguments.foldlM Draft.read {}).bind Draft.finish

end PatternMatcher
