import Mathlib
import PatternMatcher.CommandLine.Run
import PatternMatcher.Proofs.InputLines
import PatternMatcher.Proofs.RoundTrip
import PatternMatcher.Proofs.Tiling

/-!
# A run prints a block for each subject

A run is refused before it tests anything, or tests its subjects in order, each by a call
of its own with the whole step limit, until a call fails.  `Options.Supplied` says which
subjects there are, `Options.Shows` what is printed about one of them, character by
character, and `Options.Tests` what all of them come to.
-/

namespace PatternMatcher

/-- A span as it is printed. -/
def Span.written (span : Span) : String :=
  "[" ++ toString span.start ++ ", " ++ toString span.stop ++ ")"

theorem Span.render_eq_written (span : Span) : span.render = span.written := rfl

/-- One line about each operator of a pattern, in their order: the index of the operator,
a form of it that is read as this operator alone, what it consumed in a match, and its
repetitions there. -/
structure Match.OperatorLines (found : Match) (pattern : Pattern) (shown : List String) :
    Prop where
  length_eq : shown.length = pattern.size
  line : ∀ (index : Nat) (line : String), shown[index]? = some line →
    ∃ operator consumed repetitions,
      pattern.operators[index]? = some operator ∧
      found.consumed[index]? = some consumed ∧
      found.repetitions[index]? = some repetitions ∧
      Pattern.parse operator.render = .ok ⟨[operator]⟩ ∧
      line = "  " ++ toString index ++ ": " ++ operator.render ++ " " ++ consumed.written ++
        " [" ++ " ".intercalate (repetitions.map Span.written) ++ "]\n"

namespace Options

/-- The subjects of a run: those of the command line if it has any, or else the lines of
the standard input. -/
inductive Supplied (options : Options) (stdin : ByteArray) : List String → Prop where
  | arguments : options.subjects ≠ [] → Supplied options stdin options.subjects
  | input {text : String} {subjects : List String} :
      options.subjects = [] →
      text.toUTF8 = stdin →
      WrittenInLines (subjects.map String.toList) text.toList →
      Supplied options stdin subjects

/-- What stops a run before its first subject. -/
def Refused (options : Options) (stdin : ByteArray) : Prop :=
  options.stepLimit = some 0 ∨ options.subjects = [] ∧ ¬stdin.IsValidUTF8

/-- The call for one subject, with the whole step limit. -/
def call (options : Options) (pattern : Pattern) (subject : String) :
    Except SearchError (Option Match) :=
  let matcher : Matcher := { pattern, stepLimit := options.stepLimit }
  if options.search then matcher.find subject else matcher.fullMatch subject

/-- What is printed about a subject and its answer. -/
inductive Shows (options : Options) (pattern : Pattern) (subject : String) :
    Option Match → String → Prop where
  | missed : Shows options pattern subject none ("NO_MATCH " ++ subject ++ "\n")
  | matched {found : Match} :
      options.ranges = false →
      Shows options pattern subject (some found) ("MATCH " ++ subject ++ "\n")
  | detailed {found : Match} {shown : List String} :
      options.ranges = true →
      found.OperatorLines pattern shown →
      Shows options pattern subject (some found)
        ("MATCH " ++ subject ++ "\n" ++
          ("  span " ++ found.span.written ++ "\n" ++ .join shown))

/-- The number of subjects before the first one whose call fails. -/
def answered (options : Options) (pattern : Pattern) (subjects : List String) : Nat :=
  subjects.findIdx fun subject => !(options.call pattern subject).isOk

/-- Testing subjects prints the blocks of those before the first failing call.  The exit
code tells whether there is such a call, and if not, whether every subject matched; no
subject at all is as good as that. -/
structure Tests (options : Options) (pattern : Pattern) (subjects : List String)
    (stdout : String) (code : Nat) : Prop where
  blocks : ∃ blocks,
    List.Forall₂
      (fun subject block => ∃ answer, options.call pattern subject = .ok answer ∧
        options.Shows pattern subject answer block)
      (subjects.take (options.answered pattern subjects)) blocks ∧
    stdout = .join blocks
  failed : options.answered pattern subjects < subjects.length → code = 2
  matched : (∀ subject ∈ subjects, ∃ found, options.call pattern subject = .ok (some found)) →
    code = 0
  missed : options.answered pattern subjects = subjects.length →
    (∃ subject ∈ subjects, options.call pattern subject = .ok none) → code = 1

section Input

variable {options : Options} {stdin : ByteArray}

theorem allSubjects_of_invalid (none : options.subjects = []) (invalid : ¬stdin.IsValidUTF8) :
    options.allSubjects stdin = .error .unreadableInput := by
  rw [allSubjects, if_pos none, subjectsOfInput, String.fromUTF8?, dif_neg invalid]

theorem exists_supplied (accepted : ¬options.Refused stdin) :
    ∃ subjects, options.allSubjects stdin = .ok subjects ∧
      options.Supplied stdin subjects := by
  by_cases none : options.subjects = []
  · have valid : stdin.IsValidUTF8 := by
      by_contra invalid
      exact accepted (.inr ⟨none, invalid⟩)
    let text := String.fromUTF8 stdin valid
    have encoded : text.toUTF8 = stdin := rfl
    refine ⟨_, ?_, .input none encoded (map_lines_eq_iff_written.mp rfl)⟩
    rw [allSubjects, if_pos none]
    exact subjectsOfInput_toUTF8 text
  · refine ⟨options.subjects, ?_, .arguments none⟩
    rw [allSubjects, if_neg none]

end Input

variable {options : Options} {pattern : Pattern} {subject : String}

theorem answer_ask (options : Options) (pattern : Pattern) (subject : String) :
    (options.ask { pattern, stepLimit := options.stepLimit } subject).answer =
      options.call pattern subject := by
  rw [ask, call]
  split
  · rfl
  · rfl

theorem operatorLine_eq (index : Nat) (operator : Operator) (consumed : Span)
    (repetitions : List Span) :
    operatorLine index operator consumed repetitions =
      "  " ++ toString index ++ ": " ++ operator.render ++ " " ++ consumed.written ++
        " [" ++ " ".intercalate (repetitions.map Span.written) ++ "]\n" := by
  have renders : Span.render = Span.written := funext Span.render_eq_written
  rw [operatorLine, renders]
  rfl

/-- A match has consumed spans and repetitions for every operator, so no operator is left
out of its lines. -/
theorem operatorLines_of_call {found : Match}
    (called : options.call pattern subject = .ok (some found)) :
    found.OperatorLines pattern
      ((pattern.operators.zip found.consumed).zipIdx.map fun ((operator, span), index) =>
        operatorLine index operator span ((found.repetitions? index).getD [])) := by
  have tiled : ∃ start stop, found.Tiles pattern (chars subject) start stop := by
    rw [call] at called
    split at called
    · exact Matcher.tiles_of_find called
    · exact Matcher.tiles_of_fullMatch called
  obtain ⟨start, stop, tiles⟩ := tiled
  have sameConsumed : found.consumed.length = pattern.operators.length := tiles.length_consumed
  constructor
  · rw [List.length_map, List.length_zipIdx, List.length_zip, sameConsumed, Nat.min_self]
    rfl
  · intro index line present
    rw [List.getElem?_map, List.getElem?_zipIdx, Option.map_map, Option.map_eq_some_iff] at present
    obtain ⟨⟨operator, span⟩, paired, rfl⟩ := present
    obtain ⟨inOperators, inConsumed⟩ := List.getElem?_zip_eq_some.mp paired
    have inRepetitions : index < found.repetitions.length := by
      rw [tiles.length_repetitions]
      exact (List.getElem?_eq_some_iff.mp inOperators).1
    have recorded : found.repetitions[index]? = some found.repetitions[index] :=
      List.getElem?_eq_getElem inRepetitions
    refine ⟨operator, span, _, inOperators, inConsumed, recorded,
      Pattern.parse_operator_render operator, ?_⟩
    rw [Function.comp_apply, Nat.zero_add]
    simp only [Match.repetitions?, recorded, Option.getD_some]
    exact operatorLine_eq index operator span _

theorem shows_subjectLines {answer : Option Match}
    (called : options.call pattern subject = .ok answer) :
    options.Shows pattern subject answer (subjectLines options pattern subject answer) := by
  cases answer with
  | none => exact .missed
  | some found =>
      rw [subjectLines]
      cases detail : options.ranges with
      | false =>
          rw [if_neg Bool.false_ne_true, String.append_empty]
          exact .matched detail
      | true =>
          rw [if_pos rfl]
          exact .detailed detail (operatorLines_of_call called)

section TestEach

variable {later : List String}

theorem testEach_of_error {cause : SearchError}
    (called : options.call pattern subject = .error cause) :
    (testEach options { pattern, stepLimit := options.stepLimit } (subject :: later)).stdout = "" ∧
    (testEach options { pattern, stepLimit := options.stepLimit } (subject :: later)).verdict =
      .error (.searchFailed subject cause) := by
  rw [testEach]
  simp only [answer_ask, called, and_self]

theorem testEach_of_ok {answer : Option Match}
    (called : options.call pattern subject = .ok answer) :
    (testEach options { pattern, stepLimit := options.stepLimit } (subject :: later)).stdout =
      subjectLines options pattern subject answer ++
        (testEach options { pattern, stepLimit := options.stepLimit } later).stdout ∧
    (testEach options { pattern, stepLimit := options.stepLimit } (subject :: later)).verdict =
      (testEach options { pattern, stepLimit := options.stepLimit } later).verdict.map
        (answer.isSome && ·) := by
  rw [testEach]
  simp only [answer_ask, called, and_self]

theorem answered_of_error {cause : SearchError}
    (called : options.call pattern subject = .error cause) :
    options.answered pattern (subject :: later) = 0 := by
  rw [answered, List.findIdx_cons, called]
  rfl

theorem answered_of_ok {answer : Option Match}
    (called : options.call pattern subject = .ok answer) :
    options.answered pattern (subject :: later) = options.answered pattern later + 1 := by
  rw [answered, List.findIdx_cons, called]
  rfl

theorem matched_or_missed {subjects : List String}
    (all : options.answered pattern subjects = subjects.length) :
    (∀ subject ∈ subjects, ∃ found, options.call pattern subject = .ok (some found)) ∨
      ∃ subject ∈ subjects, options.call pattern subject = .ok none := by
  by_cases missed : ∃ subject ∈ subjects, options.call pattern subject = .ok none
  · exact .inr missed
  · left
    intro subject member
    have succeeds := List.findIdx_eq_length.mp all subject member
    cases called : options.call pattern subject with
    | error cause =>
        rw [called] at succeeds
        cases succeeds
    | ok answer =>
        cases answer with
        | none => exact absurd ⟨subject, member, called⟩ missed
        | some found => exact ⟨found, rfl⟩

/-- One more answer in front of a verdict makes a failure of a success, and leaves the
others as they are. -/
theorem exitCode_map (matched : Bool) (verdict : Except RunError Bool) :
    exitCode (verdict.map (matched && ·)) =
      if exitCode verdict = 0 ∧ matched = false then 1 else exitCode verdict := by
  cases verdict with
  | error cause => rfl
  | ok all => cases matched <;> cases all <;> rfl

theorem tests_testEach (options : Options) (pattern : Pattern) (subjects : List String) :
    options.Tests pattern subjects
      (testEach options { pattern, stepLimit := options.stepLimit } subjects).stdout
      (exitCode
        (testEach options { pattern, stepLimit := options.stepLimit } subjects).verdict) := by
  induction subjects with
  | nil =>
      refine ⟨⟨[], .nil, rfl⟩, ?_, fun _ => rfl, ?_⟩
      · intro before
        cases before
      · intro _ missed
        obtain ⟨subject, member, -⟩ := missed
        cases member
  | cons subject later ih =>
      cases called : options.call pattern subject with
      | error cause =>
          obtain ⟨nothing, failed⟩ := testEach_of_error called
          have first : options.answered pattern (subject :: later) = 0 := answered_of_error called
          rw [nothing, failed]
          refine ⟨⟨[], ?_, rfl⟩, fun _ => rfl, ?_, ?_⟩
          · rw [first]
            exact .nil
          · intro matched
            obtain ⟨found, called'⟩ := matched subject List.mem_cons_self
            rw [called] at called'
            cases called'
          · intro all
            rw [first] at all
            cases all
      | ok answer =>
          obtain ⟨printed, verdict⟩ := testEach_of_ok called
          have more : options.answered pattern (subject :: later) =
              options.answered pattern later + 1 := answered_of_ok called
          rw [printed, verdict, exitCode_map]
          refine ⟨?_, ?_, ?_, ?_⟩
          · obtain ⟨blocks, shown, joined⟩ := ih.blocks
            refine ⟨subjectLines options pattern subject answer :: blocks, ?_, ?_⟩
            · rw [more, List.take_succ_cons]
              exact .cons ⟨answer, called, shows_subjectLines called⟩ shown
            · rw [joined, String.join_cons]
          · intro before
            rw [more, List.length_cons] at before
            rw [ih.failed (Nat.lt_of_succ_lt_succ before)]
            rfl
          · intro matched
            obtain ⟨found, called'⟩ := matched subject List.mem_cons_self
            rw [called] at called'
            cases called'
            rw [ih.matched fun other member => matched other (List.mem_cons_of_mem _ member)]
            rfl
          · intro all missed
            rw [more, List.length_cons] at all
            have all := Nat.succ.inj all
            rcases matched_or_missed all with matched | missedLater
            · obtain ⟨other, member, missing⟩ := missed
              rcases List.mem_cons.mp member with same | inLater
              · rw [same, called] at missing
                cases missing
                rw [ih.matched matched]
                rfl
              · obtain ⟨found, called'⟩ := matched other inLater
                rw [missing] at called'
                cases called'
            · rw [ih.missed all missedLater]
              rfl

end TestEach

theorem test_of_refused {stdin : ByteArray} (refused : options.Refused stdin) :
    (options.test pattern stdin).stdout = "" ∧
      ∃ error, (options.test pattern stdin).verdict = .error error := by
  rw [test]
  split
  · exact ⟨rfl, _, rfl⟩
  · next positive =>
      rcases refused with zero | ⟨none, invalid⟩
      · exact absurd zero positive
      · rw [allSubjects_of_invalid none invalid]
        exact ⟨rfl, _, rfl⟩

theorem tests_test {stdin : ByteArray} (accepted : ¬options.Refused stdin) :
    ∃ subjects, options.Supplied stdin subjects ∧
      options.Tests pattern subjects (options.test pattern stdin).stdout
        (exitCode (options.test pattern stdin).verdict) := by
  obtain ⟨subjects, given, supplied⟩ := exists_supplied accepted
  refine ⟨subjects, supplied, ?_⟩
  rw [test, if_neg fun zero => accepted (.inl zero), given]
  exact tests_testEach options pattern subjects

/-- What a run writes to the standard output and the code it exits with, for whatever
options and input. -/
theorem run_prints_blocks (options : Options) (stdin : ByteArray) :
    (∀ cause, Pattern.parse options.pattern = .error cause →
      (options.run stdin).stdout = "" ∧ (options.run stdin).exitCode = 2) ∧
    (∀ pattern, Pattern.parse options.pattern = .ok pattern →
      (options.explain = true → (options.run stdin).exitCode = 0) ∧
      (options.explain = false → options.Refused stdin →
        (options.run stdin).stdout = "" ∧ (options.run stdin).exitCode = 2) ∧
      (options.explain = false → ¬options.Refused stdin →
        ∃ subjects, options.Supplied stdin subjects ∧
          options.Tests pattern subjects (options.run stdin).stdout
            (options.run stdin).exitCode)) := by
  rw [run]
  constructor
  · intro cause unreadable
    have refused : options.perform stdin =
        { verdict := .error (.invalidPattern options.pattern cause) } := by
      rw [perform, unreadable]
    rw [refused]
    exact ⟨rfl, rfl⟩
  · intro pattern readable
    simp only [perform, readable]
    refine ⟨?_, ?_, ?_⟩
    · intro explained
      rw [if_pos explained]
      rfl
    · intro tested refused
      obtain ⟨nothing, error, failed⟩ := test_of_refused refused
      rw [if_neg (Bool.eq_false_iff.mp tested), nothing, failed]
      exact ⟨rfl, rfl⟩
    · intro tested accepted
      rw [if_neg (Bool.eq_false_iff.mp tested)]
      exact tests_test accepted

/-- A run of three subjects, of which the last one needs more steps than it may spend. -/
theorem run_prints_blocks_until_limit :
    let options : Options :=
      { pattern := "a*b", subjects := ["ab", "c", "aac"], ranges := true, stepLimit := some 3 }
    let pattern : Pattern := ⟨[⟨.literal 'a', .zeroOrMore⟩, ⟨.literal 'b', .once⟩]⟩
    Pattern.parse options.pattern = .ok pattern ∧ ¬options.Refused .empty ∧
      options.answered pattern options.subjects = 2 ∧
      ∃ subjects, options.Supplied .empty subjects ∧
        options.Tests pattern subjects (options.run .empty).stdout
          (options.run .empty).exitCode := by
  intro options pattern
  have readable : Pattern.parse options.pattern = .ok pattern := by decide +kernel
  have accepted : ¬options.Refused .empty := by
    rintro (zero | ⟨none, -⟩)
    · cases zero
    · cases none
  refine ⟨readable, accepted, by decide +kernel, ?_⟩
  exact ((run_prints_blocks options .empty).2 pattern readable).2.2 rfl accepted

end Options

end PatternMatcher
