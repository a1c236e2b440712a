import Mathlib
import PatternMatcher.Proofs.Language

/-!
# One text behind another

Once a text has been read as a pattern, the reader knows of it only its length and its
operators: it goes on as a new reader would, `moved` behind them.  The only way to fail
on the way is a quantifier at the very beginning, so what follows a pattern is read as
it would be alone, unless it begins with quantifiers: these count for the last operator
before them.
-/

namespace PatternMatcher

/-- The same error in a text that begins `distance` characters earlier. -/
def PatternError.moved (distance : Nat) : PatternError → PatternError
  | danglingQuantifier quantifier position =>
      danglingQuantifier quantifier (distance + position)
  | unterminatedClass position => unterminatedClass (distance + position)
  | trailingEscape position => trailingEscape (distance + position)

def OpenClass.moved (distance : Nat) (opened : OpenClass) : OpenClass :=
  { opened with openedAt := distance + opened.openedAt }

def ReadMode.moved (distance : Nat) : ReadMode → ReadMode
  | ready => ready
  | escape position => escape (distance + position)
  | inClass opened => inClass (opened.moved distance)

/-- A reader behind a text of the given length and operators (latest first). -/
def PatternReader.moved (distance : Nat) (earlier : List Operator) (reader : PatternReader) :
    PatternReader where
  position := distance + reader.position
  operators := reader.operators ++ earlier
  mode := reader.mode.moved distance

/-- What a text of its own comes to behind one of the given length and operators. -/
def Pattern.behind (distance : Nat) (earlier : List Operator) :
    Except PatternError Pattern → Except PatternError Pattern
  | .ok pattern => .ok ⟨earlier ++ pattern.operators⟩
  | .error error => .error (error.moved distance)

/-- A run of quantifiers, of which the last one counts. -/
inductive QuantifierRun : List Char → Quantifier → Prop where
  | last {char : Char} {quantifier : Quantifier} :
      Quantifier.ofChar? char = some quantifier → QuantifierRun [char] quantifier
  | cons {char : Char} {run : List Char} {earlier quantifier : Quantifier} :
      Quantifier.ofChar? char = some earlier → QuantifierRun run quantifier →
      QuantifierRun (char :: run) quantifier

variable {distance : Nat} {earlier : List Operator} {char : Char}

theorem OpenClass.read_moved (distance : Nat) (opened : OpenClass) (char : Char) :
    (opened.moved distance).read char =
      Sum.map id (OpenClass.moved distance) (opened.read char) := by
  apply Becomes.read_eq
  have becomes := opened.becomes_read char
  generalize opened.read char = taken at becomes ⊢
  cases becomes with
  | escaped pending => exact .escaped pending
  | escape plain => exact .escape plain
  | negated plain atCaret => exact .negated plain atCaret
  | closed plain => exact .closed plain
  | bare plain formed past => exact .bare plain formed past

namespace PatternReader

variable {reader next : PatternReader} {text run : List Char}

theorem quantify_moved {quantifier : Quantifier}
    (given : reader.quantify char quantifier = .ok next) :
    (reader.moved distance earlier).quantify char quantifier =
      .ok (next.moved distance earlier) := by
  obtain ⟨position, operators, mode⟩ := reader
  cases operators with
  | nil => cases given
  | cons latest before =>
      cases given
      rfl

/-- A character does to a moved reader what it does to the reader. -/
theorem read_moved (given : reader.read char = .ok next) :
    (reader.moved distance earlier).read char = .ok (next.moved distance earlier) := by
  obtain ⟨position, operators, mode⟩ := reader
  cases mode with
  | escape opened =>
      cases given
      rfl
  | inClass opened =>
      cases taken : opened.read char with
      | inl atom =>
          rw [read_inClass_of_inl taken] at given
          cases given
          have closed : (opened.moved distance).read char = .inl atom := by
            rw [OpenClass.read_moved, taken]
            rfl
          exact read_inClass_of_inl closed
      | inr stillOpen =>
          rw [read_inClass_of_inr taken] at given
          cases given
          have open' : (opened.moved distance).read char =
              .inr (stillOpen.moved distance) := by
            rw [OpenClass.read_moved, taken]
            rfl
          exact read_inClass_of_inr open'
  | ready =>
      have ready : (PatternReader.mk position operators .ready).mode = .ready := rfl
      have proceeds := proceeds_read ready char
      rw [given] at proceeds
      apply Proceeds.read_eq _ rfl
      generalize result : Except.ok next = outcome at proceeds
      cases proceeds with
      | escape =>
          cases result
          exact .escape
      | opened =>
          cases result
          exact .opened
      | any =>
          cases result
          exact .any
      | quantified meant =>
          rw [← quantify_moved result.symm]
          exact .quantified meant
      | literal formed =>
          cases result
          exact .literal formed

theorem readAll_moved (given : reader.readAll text = .ok next) :
    (reader.moved distance earlier).readAll text = .ok (next.moved distance earlier) := by
  induction text generalizing reader with
  | nil =>
      cases given
      rfl
  | cons char text ih =>
      obtain ⟨middle, first, later⟩ := exists_read_of_readAll_cons given
      rw [readAll_cons_of_ok (read_moved first)]
      exact ih later

theorem finish_moved :
    (reader.moved distance earlier).finish =
      Pattern.behind distance earlier.reverse reader.finish := by
  obtain ⟨position, operators, mode⟩ := reader
  cases mode with
  | ready => simp [moved, ReadMode.moved, finish, Pattern.behind]
  | escape opened => rfl
  | inClass opened => rfl

/-- A reader behind which no quantifier can dangle. -/
def Started (reader : PatternReader) : Prop :=
  reader.mode = .ready → reader.operators ≠ []

theorem started_push (reader : PatternReader) (atom : Atom) : (reader.push atom).Started :=
  fun _ => List.cons_ne_nil _ _

theorem started_enter (reader : PatternReader) {mode : ReadMode} (inside : mode ≠ .ready) :
    (reader.enter mode).Started :=
  fun ready => absurd ready inside

/-- Only a quantifier that is the first character is refused. -/
theorem started_read (reader : PatternReader) (char : Char)
    (applies : reader.Started ∨ Quantifier.ofChar? char = none) :
    ∃ next, reader.read char = .ok next ∧ next.Started := by
  obtain ⟨position, operators, mode⟩ := reader
  cases mode with
  | escape opened => exact ⟨_, rfl, started_push _ _⟩
  | inClass opened =>
      cases taken : opened.read char with
      | inl atom => exact ⟨_, read_inClass_of_inl taken, fun _ => List.cons_ne_nil _ _⟩
      | inr stillOpen => exact ⟨_, read_inClass_of_inr taken, nofun⟩
  | ready =>
      have ready : (PatternReader.mk position operators .ready).mode = .ready := rfl
      have proceeds := proceeds_read ready char
      generalize read ⟨position, operators, .ready⟩ char = result at proceeds ⊢
      cases proceeds with
      | escape => exact ⟨_, rfl, started_enter _ nofun⟩
      | opened => exact ⟨_, rfl, started_enter _ nofun⟩
      | any => exact ⟨_, rfl, started_push _ _⟩
      | literal formed => exact ⟨_, rfl, started_push _ _⟩
      | quantified meant =>
          rcases applies with started | free
          · cases operators with
            | nil => exact absurd rfl (started rfl)
            | cons latest before => exact ⟨_, rfl, fun _ => List.cons_ne_nil _ _⟩
          · rw [free] at meant
            cases meant

theorem Started.readAll (started : reader.Started) (text : List Char) :
    ∃ next, reader.readAll text = .ok next ∧ next.Started := by
  induction text generalizing reader with
  | nil => exact ⟨reader, rfl, started⟩
  | cons char text ih =>
      obtain ⟨middle, first, started'⟩ := started_read reader char (.inl started)
      obtain ⟨next, given, started''⟩ := ih started'
      refine ⟨next, ?_, started''⟩
      rwa [readAll_cons_of_ok first]

/-- A text that does not begin with a quantifier is read to its end. -/
theorem exists_readAll (free : EndsQuantifiers text) :
    ∃ reader, readAll {} text = .ok reader := by
  cases text with
  | nil => exact ⟨{}, rfl⟩
  | cons char text =>
      obtain ⟨middle, first, started⟩ := started_read {} char (.inr (free char rfl))
      obtain ⟨next, given, -⟩ := started.readAll text
      refine ⟨next, ?_⟩
      rwa [readAll_cons_of_ok first]

/-- A run of quantifiers changes nothing but the quantifier of the latest operator. -/
theorem readAll_quantifierRun {position : Nat} {latest : Operator} {quantifier : Quantifier}
    (quantifiers : QuantifierRun run quantifier) :
    readAll ⟨position, latest :: earlier, .ready⟩ run =
      .ok ⟨position + run.length, { latest with quantifier } :: earlier, .ready⟩ := by
  induction quantifiers generalizing position latest with
  | last meant =>
      exact readAll_cons_of_ok ((Proceeds.quantified meant).read_eq rfl)
  | @cons char run first quantifier meant later ih =>
      have quantified : read ⟨position, latest :: earlier, .ready⟩ char =
          .ok ⟨position + 1, { latest with quantifier := first } :: earlier, .ready⟩ :=
        (Proceeds.quantified meant).read_eq rfl
      rw [readAll_cons_of_ok quantified, ih, List.length_cons, Nat.add_assoc, Nat.add_comm 1]

end PatternReader

namespace Pattern

variable {front back text run : List Char} {pattern : Pattern} {error : PatternError}

/-- The three ways in which a text comes to an end that can be read to it. -/
theorem ofChars_of_endsQuantifiers (free : EndsQuantifiers text) :
    (∃ pattern, ofChars text = .ok pattern) ∨
    (∃ position, ofChars text = .error (.unterminatedClass position)) ∨
    (∃ position, ofChars text = .error (.trailingEscape position)) := by
  obtain ⟨⟨position, operators, mode⟩, given⟩ := PatternReader.exists_readAll free
  rw [ofChars, given]
  cases mode with
  | ready => exact .inl ⟨_, rfl⟩
  | inClass opened => exact .inr (.inl ⟨_, rfl⟩)
  | escape opened => exact .inr (.inr ⟨_, rfl⟩)

theorem ofChars_of_leading {quantifier : Quantifier}
    (meant : Quantifier.ofChar? char = some quantifier) :
    ofChars (char :: text) = .error (.danglingQuantifier char 0) := by
  have refused : PatternReader.read {} char = .error (.danglingQuantifier char 0) :=
    (PatternReader.Proceeds.quantified meant).read_eq rfl
  rw [ofChars, PatternReader.readAll_cons, refused]
  rfl

/-- A quantifier dangles if the text begins with it, and only then. -/
theorem begins_of_dangling {quantifier : Char} {position : Nat}
    (dangles : ofChars text = .error (.danglingQuantifier quantifier position)) :
    ∃ rest meant, text = quantifier :: rest ∧ position = 0 ∧
      Quantifier.ofChar? quantifier = some meant := by
  cases text with
  | nil => cases dangles
  | cons char rest =>
      cases meant : Quantifier.ofChar? char with
      | some quantifier =>
          rw [ofChars_of_leading meant] at dangles
          cases dangles
          exact ⟨rest, quantifier, rfl, rfl, meant⟩
      | none =>
          have free : EndsQuantifiers (char :: rest) := by
            intro first leads
            cases leads
            exact meant
          rcases ofChars_of_endsQuantifiers free with ⟨_, given⟩ | ⟨_, given⟩ | ⟨_, given⟩
          · simp [given] at dangles
          · simp [given] at dangles
          · simp [given] at dangles

/-- The reader behind a text that is a pattern. -/
theorem readAll_eq_of_ofChars (given : ofChars text = .ok pattern) :
    PatternReader.readAll {} text = .ok ⟨text.length, pattern.operators.reverse, .ready⟩ := by
  obtain ⟨items, derived⟩ := exists_derives_of_ofChars given
  exact derived.readAll_eq

/-- What a text comes to behind another one, of which the reader knows the length and
the operators. -/
theorem ofChars_append_of_readAll
    (given : PatternReader.readAll {} front = .ok ⟨distance, earlier.reverse, .ready⟩)
    (free : EndsQuantifiers back) :
    ofChars (front ++ back) = behind distance earlier (ofChars back) := by
  obtain ⟨reader, read⟩ := PatternReader.exists_readAll free
  have whole : PatternReader.readAll {} (front ++ back) =
      .ok (reader.moved distance earlier.reverse) := by
    rw [PatternReader.readAll_append_of_ok given]
    have start : PatternReader.moved distance earlier.reverse {} =
        ⟨distance, earlier.reverse, .ready⟩ := rfl
    rw [← start]
    exact PatternReader.readAll_moved read
  rw [ofChars, ofChars, whole, read]
  simp only [Except.bind, PatternReader.finish_moved, List.reverse_reverse]

theorem ofChars_append (given : ofChars front = .ok pattern) (back : List Char)
    (fine : ∀ quantifier position,
      ofChars back ≠ .error (.danglingQuantifier quantifier position)) :
    ofChars (front ++ back) = behind front.length pattern.operators (ofChars back) := by
  apply ofChars_append_of_readAll (readAll_eq_of_ofChars given)
  intro char leads
  obtain ⟨rest, rfl⟩ := List.head?_eq_some_iff.mp leads
  cases meant : Quantifier.ofChar? char with
  | none => rfl
  | some quantifier => exact absurd (ofChars_of_leading meant) (fine char 0)

theorem ofChars_append_run {latest : Operator} {quantifier : Quantifier}
    (given : ofChars front = .ok ⟨earlier ++ [latest]⟩)
    (quantifiers : QuantifierRun run quantifier) (free : EndsQuantifiers back) :
    ofChars (front ++ (run ++ back)) =
      behind (front.length + run.length) (earlier ++ [{ latest with quantifier }])
        (ofChars back) := by
  have before := readAll_eq_of_ofChars given
  rw [List.reverse_append, List.reverse_singleton, List.singleton_append] at before
  rw [← List.append_assoc]
  apply ofChars_append_of_readAll _ free
  rw [PatternReader.readAll_append_of_ok before, PatternReader.readAll_quantifierRun quantifiers,
    List.reverse_append, List.reverse_singleton, List.singleton_append]

theorem ofChars_append_of_dangling {quantifier : Char} {position : Nat}
    (dangles : ofChars front = .error (.danglingQuantifier quantifier position)) :
    ofChars (front ++ back) = .error (.danglingQuantifier quantifier position) := by
  obtain ⟨rest, meant, rfl, rfl, means⟩ := begins_of_dangling dangles
  exact ofChars_of_leading means

/-- Reading is compositional.  Behind a pattern, a text is read as it is alone: its
operators follow those of the pattern, its error stands as many characters later as the
pattern is long.  Behind a pattern with operators, quantifiers at the beginning of the
text count for the last of them, by the last of the quantifiers.  A quantifier that
dangles does so whatever follows. -/
theorem parse_append (front : String) :
    (∀ pattern, parse front = .ok pattern →
      (∀ back other, parse back = .ok other →
        parse (front ++ back) = .ok ⟨pattern.operators ++ other.operators⟩) ∧
      (∀ back position, parse back = .error (.unterminatedClass position) →
        parse (front ++ back) = .error (.unterminatedClass (front.length + position))) ∧
      (∀ back position, parse back = .error (.trailingEscape position) →
        parse (front ++ back) = .error (.trailingEscape (front.length + position)))) ∧
    (∀ earlier latest, parse front = .ok ⟨earlier ++ [latest]⟩ →
      ∀ (run rest : String) (quantifier : Quantifier),
        QuantifierRun run.toList quantifier → EndsQuantifiers rest.toList →
        let operators := earlier ++ [{ latest with quantifier }]
        let distance := front.length + run.length
        (∃ other, parse rest = .ok other ∧
          parse (front ++ (run ++ rest)) = .ok ⟨operators ++ other.operators⟩) ∨
        (∃ position, parse rest = .error (.unterminatedClass position) ∧
          parse (front ++ (run ++ rest)) = .error (.unterminatedClass (distance + position))) ∨
        (∃ position, parse rest = .error (.trailingEscape position) ∧
          parse (front ++ (run ++ rest)) = .error (.trailingEscape (distance + position)))) ∧
    (∀ quantifier position, parse front = .error (.danglingQuantifier quantifier position) →
      ∀ back, parse (front ++ back) = .error (.danglingQuantifier quantifier position)) := by
  simp only [parse, String.toList_append, ← String.length_toList]
  refine ⟨fun pattern given => ⟨?_, ?_, ?_⟩, ?_, ?_⟩
  · intro back other alone
    have whole := ofChars_append given back.toList (by simp [alone])
    rwa [alone] at whole
  · intro back position alone
    have whole := ofChars_append given back.toList (by simp [alone])
    rwa [alone] at whole
  · intro back position alone
    have whole := ofChars_append given back.toList (by simp [alone])
    rwa [alone] at whole
  · intro earlier latest given run rest quantifier quantifiers free
    have whole := ofChars_append_run given quantifiers free
    rcases ofChars_of_endsQuantifiers free with ⟨other, alone⟩ | ⟨position, alone⟩ |
      ⟨position, alone⟩
    · rw [alone] at whole
      exact .inl ⟨other, alone, whole⟩
    · rw [alone] at whole
      exact .inr (.inl ⟨position, alone, whole⟩)
    · rw [alone] at whole
      exact .inr (.inr ⟨position, alone, whole⟩)
  · intro quantifier position dangles back
    exact ofChars_append_of_dangling dangles

/-- Each kind of text behind `é[bc]`, which is longer in bytes, and a text that dangles. -/
theorem parse_append_of_each_kind :
    let accented : Operator := ⟨.literal 'é', .once⟩
    let bracketed : Operator := ⟨.oneOf (.ofList ['b', 'c']), .once⟩
    let last : Operator := ⟨.literal 'd', .oneOrMore⟩
    parse "é[bc]" = .ok ⟨[accented] ++ [bracketed]⟩ ∧
      (parse "d+" = .ok ⟨[last]⟩ ∧
        parse ("é[bc]" ++ "d+") = .ok ⟨[accented, bracketed, last]⟩) ∧
      (parse "é[x" = .error (.unterminatedClass 1) ∧
        parse ("é[bc]" ++ "é[x") = .error (.unterminatedClass (5 + 1))) ∧
      (parse "x\\" = .error (.trailingEscape 1) ∧
        parse ("é[bc]" ++ "x\\") = .error (.trailingEscape (5 + 1))) ∧
      (QuantifierRun "?*".toList .zeroOrMore ∧ EndsQuantifiers "d+".toList ∧
        parse ("é[bc]" ++ ("?*" ++ "d+")) =
          .ok ⟨[accented, { bracketed with quantifier := .zeroOrMore }, last]⟩) ∧
      (parse "+a" = .error (.danglingQuantifier '+' 0) ∧
        parse ("+a" ++ "b") = .error (.danglingQuantifier '+' 0)) := by
  intro accented bracketed last
  have given : parse "é[bc]" = .ok ⟨[accented] ++ [bracketed]⟩ := by decide +kernel
  have alone : parse "d+" = .ok ⟨[last]⟩ := by decide +kernel
  have unclosed : parse "é[x" = .error (.unterminatedClass 1) := by decide +kernel
  have cut : parse "x\\" = .error (.trailingEscape 1) := by decide +kernel
  have dangles : parse "+a" = .error (.danglingQuantifier '+' 0) := by decide +kernel
  have quantifiers : QuantifierRun "?*".toList .zeroOrMore := .cons rfl (.last rfl)
  have free : EndsQuantifiers "d+".toList := by
    intro char leads
    cases leads
    rfl
  obtain ⟨behindFront, behindLatest, -⟩ := parse_append "é[bc]"
  obtain ⟨ok, unterminated, trailing⟩ := behindFront _ given
  obtain ⟨-, -, persists⟩ := parse_append "+a"
  refine ⟨given, ⟨alone, ok _ _ alone⟩, ⟨unclosed, unterminated _ _ unclosed⟩,
    ⟨cut, trailing _ _ cut⟩, ⟨quantifiers, free, ?_⟩, dangles, persists _ _ dangles "b"⟩
  rcases behindLatest _ _ given _ _ _ quantifiers free with ⟨other, same, whole⟩ |
    ⟨position, failed, -⟩ | ⟨position, failed, -⟩
  · rw [alone] at same
    cases same
    exact whole
  · rw [alone] at failed
    cases failed
  · rw [alone] at failed
    cases failed

end Pattern

end PatternMatcher
