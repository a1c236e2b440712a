import Mathlib
import PatternMatcher.CommandLine.Run

/-!
# Subjects on the lines of the input

The same subjects can be written on lines in many ways, since a line has one of two ends and
the last one may have none.  `WrittenInLines` says which ways there are, and
`lines_eq_iff_written` that reading undoes each of them.  A run depends on its subjects and not on
where they come from, so it cannot tell arguments from lines.
-/

namespace PatternMatcher

/-- `WrittenInLines subjects text` says that a text has the subjects on its lines, one on each.
A carriage return in front of a line feed belongs to the end of the line, so a subject that
ends with one needs another one behind it.  A last line without an end is not empty. -/
inductive WrittenInLines : List (List Char) → List Char → Prop where
  | nil : WrittenInLines [] []
  | unended {subject : List Char} :
      '\n' ∉ subject →
      subject ≠ [] →
      WrittenInLines [subject] subject
  | lineFeed {subject text : List Char} {later : List (List Char)} :
      '\n' ∉ subject →
      subject.getLast? ≠ some '\r' →
      WrittenInLines later text →
      WrittenInLines (subject :: later) (subject ++ '\n' :: text)
  | returned {subject text : List Char} {later : List (List Char)} :
      '\n' ∉ subject →
      WrittenInLines later text →
      WrittenInLines (subject :: later) (subject ++ '\r' :: '\n' :: text)

theorem dropReturn_reverse {line : List Char} (kept : line.getLast? ≠ some '\r') :
    dropReturn line.reverse = line.reverse := by
  rw [← List.head?_reverse] at kept
  cases reversed : line.reverse with
  | nil => rfl
  | cons last front =>
      rw [reversed] at kept
      rw [dropReturn]
      rintro rest ⟨⟩
      exact kept rfl

/-- The lines that are read are on the text, which begins with what has been read of the first
one. -/
theorem written_linesFrom (text : List Char) {current : List Char} (inLine : '\n' ∉ current) :
    WrittenInLines (linesFrom current text) (current.reverse ++ text) := by
  induction text generalizing current with
  | nil =>
      rw [List.append_nil, linesFrom]
      by_cases empty : current = []
      · simpa [empty] using WrittenInLines.nil
      · rw [if_neg empty]
        exact .unended (by simpa using inLine) (by simpa using empty)
  | cons char text ih =>
      by_cases ended : char = '\n'
      · subst ended
        have rest : WrittenInLines (lines text) text := ih List.not_mem_nil
        rw [linesFrom_lineFeed]
        by_cases returned : current.head? = some '\r'
        · obtain ⟨front, rfl⟩ := List.head?_eq_some_iff.mp returned
          have frontInLine : '\n' ∉ front.reverse := by simpa using inLine
          rw [List.reverse_cons, List.append_assoc]
          exact .returned frontInLine rest
        · have kept : current.reverse.getLast? ≠ some '\r' := by simpa using returned
          have same : dropReturn current = current := by
            simpa using dropReturn_reverse kept
          rw [same]
          exact .lineFeed (by simpa using inLine) kept rest
      · have longer : '\n' ∉ char :: current := by
          simpa [Ne.symm ended] using inLine
        rw [linesFrom_cons ended]
        simpa using ih longer

/-- A line that is read in front of a line feed. -/
theorem lines_append_lineFeed {line : List Char} (inLine : '\n' ∉ line) (text : List Char) :
    lines (line ++ '\n' :: text) = (dropReturn line.reverse).reverse :: lines text := by
  rw [lines, linesFrom_append inLine, List.append_nil, linesFrom_lineFeed]

theorem WrittenInLines.lines_eq {subjects : List (List Char)} {text : List Char}
    (written : WrittenInLines subjects text) : lines text = subjects := by
  induction written with
  | nil => rfl
  | @unended subject inLine nonempty =>
      have read := linesFrom_append inLine [] []
      rw [List.append_nil, List.append_nil] at read
      rw [lines, read]
      simp [linesFrom, nonempty]
  | @lineFeed subject text later inLine kept _ ih =>
      rw [lines_append_lineFeed inLine, dropReturn_reverse kept, List.reverse_reverse, ih]
  | @returned subject text later inLine _ ih =>
      have longer : '\n' ∉ subject ++ ['\r'] := by simpa using inLine
      have read := lines_append_lineFeed longer text
      rw [List.append_assoc, List.singleton_append] at read
      rw [read, ih, List.reverse_append]
      simp [dropReturn]

theorem lines_eq_iff_written {subjects : List (List Char)} {text : List Char} :
    lines text = subjects ↔ WrittenInLines subjects text := by
  constructor
  · rintro rfl
    exact written_linesFrom text List.not_mem_nil
  · exact WrittenInLines.lines_eq

theorem map_lines_eq_iff_written {subjects : List String} {text : List Char} :
    (lines text).map String.ofList = subjects ↔
      WrittenInLines (subjects.map String.toList) text := by
  rw [← lines_eq_iff_written]
  constructor
  · rintro rfl
    simp
  · intro read
    simp [read]

/-- A carriage return at the end of a subject is lost if only a line feed follows it. -/
example : lines "a\r\nb\r".toList = ["a".toList, "b\r".toList] := by decide

namespace Options

variable {options : Options} {subjects : List String} {stdin : ByteArray}

/-- The calls and the blocks look at the other options only. -/
theorem testEach_withSubjects (options : Options) (given : List String) (matcher : Matcher)
    (subjects : List String) :
    testEach { options with subjects := given } matcher subjects =
      testEach options matcher subjects := by
  induction subjects with
  | nil => rfl
  | cons subject later ih =>
      rw [testEach, testEach, ih]
      rfl

theorem allSubjects_input (options : Options) (text : String) :
    { options with subjects := [] }.allSubjects text.toUTF8 =
      .ok ((lines text.toList).map String.ofList) := by
  rw [allSubjects, if_pos rfl, subjectsOfInput_toUTF8]

theorem allSubjects_arguments (options : Options) (nonempty : subjects ≠ [])
    (stdin : ByteArray) : { options with subjects }.allSubjects stdin = .ok subjects := by
  rw [allSubjects, if_neg nonempty]

/-- Two runs that test the same subjects are the same, wherever these come from. -/
theorem run_eq_of_allSubjects {given given' : List String} {stdin' : ByteArray}
    (same : { options with subjects := given }.allSubjects stdin =
      { options with subjects := given' }.allSubjects stdin') :
    { options with subjects := given }.run stdin =
      { options with subjects := given' }.run stdin' := by
  have tested (pattern : Pattern) :
      { options with subjects := given }.test pattern stdin =
        { options with subjects := given' }.test pattern stdin' := by
    simp only [test, same, testEach_withSubjects]
  have performed : { options with subjects := given }.perform stdin =
      { options with subjects := given' }.perform stdin' := by
    simp only [perform, tested]
  simp only [run, performed, logLevel]

/-- Subjects on the lines of the input, with whatever ends, lead to the run they lead to as
arguments, for which the input does not matter. -/
theorem run_input_eq_run_arguments (options : Options) {subjects : List String} {text : String}
    (nonempty : subjects ≠ [])
    (written : WrittenInLines (subjects.map String.toList) text.toList) (stdin : ByteArray) :
    { options with subjects := [] }.run text.toUTF8 = { options with subjects }.run stdin := by
  have read : (lines text.toList).map String.ofList = subjects :=
    map_lines_eq_iff_written.mpr written
  apply run_eq_of_allSubjects
  rw [allSubjects_input, read, allSubjects_arguments options nonempty]

/-- Lines with each kind of end, one of them behind a carriage return of the subject's own, and
a last one without an end. -/
theorem run_input_eq_run_arguments_mixed :
    let options : Options :=
      { pattern := "é*b?", search := true, ranges := true, stepLimit := some 9, verbosity := 2 }
    let subjects : List String := ["a\r", "", "bé", "éé\r"]
    let text : String := "a\r\r\n\nbé\r\néé\r"
    subjects ≠ [] ∧ WrittenInLines (subjects.map String.toList) text.toList ∧
      { options with subjects := [] }.run text.toUTF8 =
        { options with subjects }.run "other\n".toUTF8 := by
  intro options subjects text
  have nonempty : subjects ≠ [] := List.cons_ne_nil _ _
  have written : WrittenInLines (subjects.map String.toList) text.toList :=
    lines_eq_iff_written.mp (by decide +kernel)
  exact ⟨nonempty, written, run_input_eq_run_arguments options nonempty written _⟩

end Options

end PatternMatcher
