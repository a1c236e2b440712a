import Mathlib
import PatternMatcher.Proofs.Concatenation

/-!
# Why a text is no pattern

A text that is no pattern begins with a quantifier, or it is a pattern with something left
open behind it: a backslash, or a class whose bracket no later character closes.  A
`Diagnosis` says which of these a text is and where; it is told from the text alone, is
unique, and decides the error.
-/

namespace PatternMatcher

/-- What stands behind the bracket that opens a class does not close the class: every
closing bracket in it is escaped. -/
inductive Unclosed : List Char → Prop where
  | nil : Unclosed []
  /-- A backslash at the very end escapes nothing. -/
  | cut : Unclosed ['\\']
  | escaped {char : Char} {text : List Char} :
      Unclosed text → Unclosed ('\\' :: char :: text)
  | bare {char : Char} {text : List Char} :
      char ≠ '\\' → char ≠ ']' → Unclosed text → Unclosed (char :: text)

/-- What there is to say of a text that may be a pattern. -/
inductive Diagnosis where
  | pattern
  | beginsWith (quantifier : Char)
  | endsInEscape (position : Nat)
  | endsInClass (position : Nat)
  deriving DecidableEq

namespace Diagnosis

/-- A backslash or a class that stays open stands behind a pattern, at the position where
the pattern ends. -/
def Fits (text : List Char) : Diagnosis → Prop
  | pattern => ∃ meant, Pattern.ofChars text = .ok meant
  | beginsWith quantifier => quantifier ∈ ['?', '*', '+'] ∧ ∃ rest, text = quantifier :: rest
  | endsInEscape position =>
      ∃ front meant, text = front ++ ['\\'] ∧ Pattern.ofChars front = .ok meant ∧
        front.length = position
  | endsInClass position =>
      ∃ front inside meant, text = front ++ '[' :: inside ∧ Pattern.ofChars front = .ok meant ∧
        Unclosed inside ∧ front.length = position

def error? : Diagnosis → Option PatternError
  | pattern => none
  | beginsWith quantifier => some (.danglingQuantifier quantifier 0)
  | endsInEscape position => some (.trailingEscape position)
  | endsInClass position => some (.unterminatedClass position)

theorem error?_injective : Function.Injective error? := by
  intro first second same
  cases first <;> cases second <;> simp_all [error?]

end Diagnosis

namespace Unclosed

variable {text : List Char}

theorem body_append {body : List WrittenMember} (formed : ∀ member ∈ body, member.WellFormed)
    (unclosed : Unclosed text) : Unclosed (body.flatMap WrittenMember.text ++ text) := by
  induction body with
  | nil => exact unclosed
  | cons member body ih =>
      obtain ⟨first, later⟩ := List.forall_mem_cons.mp formed
      rw [List.flatMap_cons, List.append_assoc]
      cases member with
      | bare char => exact .bare first.1 first.2 (ih later)
      | escaped char => exact .escaped (ih later)

theorem take (unclosed : Unclosed text) (count : Nat) : Unclosed (text.take count) := by
  induction unclosed generalizing count with
  | nil =>
      rw [List.take_nil]
      exact .nil
  | cut =>
      cases count with
      | zero => exact .nil
      | succ count =>
          rw [List.take_succ_cons, List.take_nil]
          exact .cut
  | escaped _ ih =>
      match count with
      | 0 => exact .nil
      | 1 => exact .cut
      | count + 2 => exact .escaped (ih count)
  | bare noBackslash noBracket _ ih =>
      cases count with
      | zero => exact .nil
      | succ count => exact .bare noBackslash noBracket (ih count)

end Unclosed

theorem OpenClass.Holds.unclosed {opened : OpenClass} {body : List WrittenMember}
    {inside : List Char} (holds : opened.Holds body inside) :
    ∃ behind, inside = '[' :: behind ∧ Unclosed behind := by
  have pending : Unclosed (if opened.escaped then ['\\'] else []) := by
    split
    · exact .cut
    · exact .nil
  have members := Unclosed.body_append holds.formed pending
  rw [holds.inside_eq, OpenClass.opening, List.append_assoc, List.cons_append]
  refine ⟨_, rfl, ?_⟩
  split
  · exact .bare (by decide) (by decide) members
  · exact members

/-- A caret may negate a class and any other character may be its member: what stands bare
keeps a class open. -/
theorem OpenClass.exists_read_bare {opened : OpenClass} {char : Char}
    (plain : opened.escaped = false) (formed : (WrittenMember.bare char).WellFormed) :
    ∃ next, opened.read char = .inr next ∧ next.escaped = false ∧
      next.openedAt = opened.openedAt := by
  by_cases negates : char = '^' ∧ ¬opened.PastCaret
  · obtain ⟨rfl, atCaret⟩ := negates
    exact ⟨_, (Becomes.negated plain atCaret).read_eq, plain, rfl⟩
  · have past : char = '^' → opened.PastCaret := fun caret =>
      not_not.mp (not_and.mp negates caret)
    exact ⟨_, (Becomes.bare plain formed past).read_eq, plain, rfl⟩

namespace PatternReader

variable {position : Nat} {operators : List Operator} {text : List Char}

theorem readAll_unclosed {opened : OpenClass} (unclosed : Unclosed text)
    (plain : opened.escaped = false) :
    ∃ position' opened',
      readAll ⟨position, operators, .inClass opened⟩ text =
        .ok ⟨position', operators, .inClass opened'⟩ ∧ opened'.openedAt = opened.openedAt := by
  induction unclosed generalizing position opened with
  | nil => exact ⟨position, opened, rfl, rfl⟩
  | cut =>
      have becomes := OpenClass.Becomes.escape plain
      exact ⟨_, _, readAll_cons_of_ok (read_inClass_of_inr becomes.read_eq), rfl⟩
  | @escaped char text _ ih =>
      have formed : (WrittenMember.escaped char).WellFormed := trivial
      have member : readAll ⟨position, operators, .inClass opened⟩ ['\\', char] = _ :=
        readAll_member formed plain nofun
      have plain' : OpenClass.escaped
          { opened with members := char :: opened.members } = false := plain
      obtain ⟨position', opened', rest, same⟩ := ih plain'
      exact ⟨position', opened', (readAll_append_of_ok member).trans rest, same⟩
  | @bare char text noBackslash noBracket _ ih =>
      obtain ⟨next, taken, plain', same⟩ :=
        OpenClass.exists_read_bare plain ⟨noBackslash, noBracket⟩
      obtain ⟨position', opened', rest, same'⟩ := ih plain'
      exact ⟨position', opened', (readAll_cons_of_ok (read_inClass_of_inr taken)).trans rest,
        same'.trans same⟩

end PatternReader

namespace Pattern

variable {text front : List Char} {pattern : Pattern} {error : PatternError}

theorem ofChars_of_unclosed (unclosed : Unclosed text) :
    ofChars ('[' :: text) = .error (.unterminatedClass 0) := by
  have opening : PatternReader.read {} '[' = .ok ⟨1, [], .inClass { openedAt := 0 }⟩ := rfl
  have plain : OpenClass.escaped { openedAt := 0 } = false := rfl
  obtain ⟨position, opened, given, same⟩ := PatternReader.readAll_unclosed unclosed plain
  rw [ofChars, PatternReader.readAll_cons_of_ok opening, given]
  exact congrArg (Except.error ∘ PatternError.unterminatedClass) same

theorem ofChars_append_escape (given : ofChars front = .ok pattern) :
    ofChars (front ++ ['\\']) = .error (.trailingEscape front.length) := by
  have alone : ofChars ['\\'] = .error (.trailingEscape 0) := rfl
  have whole := ofChars_append given ['\\'] (by simp [alone])
  rwa [alone] at whole

theorem ofChars_append_class (given : ofChars front = .ok pattern) (unclosed : Unclosed text) :
    ofChars (front ++ '[' :: text) = .error (.unterminatedClass front.length) := by
  have alone := ofChars_of_unclosed unclosed
  have whole := ofChars_append given ('[' :: text) (by simp [alone])
  rwa [alone] at whole

end Pattern

namespace Diagnosis

variable {text : List Char} {position : Nat}

/-- What fits a text decides what it is read as. -/
theorem Fits.ofChars_eq_error_iff {diagnosis : Diagnosis} (fits : diagnosis.Fits text)
    (error : PatternError) :
    Pattern.ofChars text = .error error ↔ diagnosis.error? = some error := by
  cases diagnosis with
  | pattern =>
      obtain ⟨meant, given⟩ := fits
      simp [given, error?]
  | beginsWith quantifier =>
      obtain ⟨written, rest, rfl⟩ := fits
      obtain ⟨meant, means⟩ := Option.ne_none_iff_exists'.mp
        fun none => Quantifier.ofChar?_eq_none_iff.mp none written
      simp [Pattern.ofChars_of_leading means, error?]
  | endsInEscape position =>
      obtain ⟨front, meant, rfl, given, rfl⟩ := fits
      simp [Pattern.ofChars_append_escape given, error?]
  | endsInClass position =>
      obtain ⟨front, inside, meant, rfl, given, unclosed, rfl⟩ := fits
      simp [Pattern.ofChars_append_class given unclosed, error?]

theorem eq_of_fits {first second : Diagnosis} (fits : first.Fits text)
    (fits' : second.Fits text) : first = second := by
  apply error?_injective
  apply Option.ext
  intro error
  rw [← fits.ofChars_eq_error_iff, fits'.ofChars_eq_error_iff]

theorem exists_fits (text : List Char) : ∃ diagnosis : Diagnosis, diagnosis.Fits text := by
  by_cases leads : ∃ quantifier, (beginsWith quantifier).Fits text
  · obtain ⟨quantifier, fits⟩ := leads
    exact ⟨_, fits⟩
  · have free : EndsQuantifiers text := by
      intro char first
      rw [Quantifier.ofChar?_eq_none_iff]
      intro written
      exact leads ⟨char, written, List.head?_eq_some_iff.mp first⟩
    obtain ⟨reader, given⟩ := PatternReader.exists_readAll free
    have reads : PatternReader.Reads [] {} := .ready .nil rfl
    have reads' := PatternReader.reads_of_readAll reads given
    rw [List.nil_append] at reads'
    cases reads' with
    | ready derived _ => exact ⟨pattern, _, derived.ofChars_eq⟩
    | escape derived _ => exact ⟨endsInEscape _, _, _, rfl, derived.ofChars_eq, rfl⟩
    | inClass derived holds _ _ =>
        obtain ⟨behind, rfl, unclosed⟩ := holds.unclosed
        exact ⟨endsInClass _, _, _, _, rfl, derived.ofChars_eq, unclosed, rfl⟩

/-- A class that stays open is open in every shorter text that has its bracket. -/
theorem Fits.take_endsInClass {count : Nat} (fits : (endsInClass position).Fits text)
    (reaches : position < count) : (endsInClass position).Fits (text.take count) := by
  obtain ⟨front, inside, meant, rfl, given, unclosed, rfl⟩ := fits
  obtain ⟨more, rfl⟩ := Nat.exists_eq_add_of_lt reaches
  refine ⟨front, inside.take more, meant, ?_, given, unclosed.take more, rfl⟩
  rw [Nat.add_assoc, List.take_length_add_append, List.take_succ_cons]

end Diagnosis

namespace Pattern

/-- Exactly one diagnosis fits a text, and it decides the error; so a quantifier dangles only
as the first character.  A class that stays open does so, with the same error, in every
prefix that goes beyond its bracket. -/
theorem parse_error_diagnosed (text : String) :
    (∃! diagnosis : Diagnosis, diagnosis.Fits text.toList) ∧
    (∀ diagnosis : Diagnosis, diagnosis.Fits text.toList →
      ∀ error, parse text = .error error ↔ diagnosis.error? = some error) ∧
    (∀ quantifier position,
      parse text ≠ .error (.danglingQuantifier quantifier (position + 1))) ∧
    (∀ position, (Diagnosis.endsInClass position).Fits text.toList →
      ∀ count, position < count →
        parse (.ofList (text.toList.take count)) = .error (.unterminatedClass position)) := by
  refine ⟨?_, ?_, ?_, ?_⟩
  · obtain ⟨diagnosis, fits⟩ := Diagnosis.exists_fits text.toList
    exact ⟨diagnosis, fits, fun other fits' => Diagnosis.eq_of_fits fits' fits⟩
  · intro diagnosis fits error
    exact fits.ofChars_eq_error_iff error
  · intro quantifier position dangles
    obtain ⟨_, _, _, first, _⟩ := begins_of_dangling dangles
    cases first
  · intro position fits count reaches
    have open' := fits.take_endsInClass reaches
    rw [parse, String.toList_ofList, open'.ofChars_eq_error_iff]
    rfl

/-- A class with an escaped bracket, a bare caret, an opening bracket and a backslash at the
very end, behind a character of several bytes. -/
theorem parse_error_diagnosed_in_class :
    let text := "é[^a\\][\\"
    (Diagnosis.endsInClass 1).Fits text.toList ∧
      parse text = .error (.unterminatedClass 1) ∧
      parse (.ofList (text.toList.take 6)) = .error (.unterminatedClass 1) := by
  intro text
  have given : ofChars ['é'] = .ok ⟨[⟨.literal 'é', .once⟩]⟩ := by decide +kernel
  have unclosed : Unclosed ['^', 'a', '\\', ']', '[', '\\'] :=
    .bare (by decide) (by decide) (.bare (by decide) (by decide)
      (.escaped (.bare (by decide) (by decide) .cut)))
  have fits : (Diagnosis.endsInClass 1).Fits text.toList :=
    ⟨['é'], _, _, by decide +kernel, given, unclosed, rfl⟩
  obtain ⟨-, decides, -, persists⟩ := parse_error_diagnosed text
  exact ⟨fits, (decides _ fits _).mpr rfl, persists 1 fits 6 (by decide)⟩

end Pattern

end PatternMatcher
