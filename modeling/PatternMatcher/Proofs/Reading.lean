import Mathlib
import PatternMatcher.Proofs.Derivations
import PatternMatcher.Proofs.Membership

/-!
# Reading what is written

What a reader makes of well-formed members, atoms, quantifiers and items, from
wherever it stands: it pushes the operators they mean, and its position moves on by
the characters read.
-/

namespace PatternMatcher

theorem Quantifier.not_special_of_ofChar? {char : Char} {quantifier : Quantifier}
    (meant : ofChar? char = some quantifier) : char ∉ ['\\', '[', '.'] := by
  intro special
  simp only [List.mem_cons, List.not_mem_nil, or_false] at special
  rcases special with rfl | rfl | rfl
  · cases meant
  · cases meant
  · cases meant

namespace OpenClass

/-- Whether a bare caret would be read as a member. -/
def PastCaret (opened : OpenClass) : Prop :=
  opened.negated = true ∨ opened.members ≠ []

theorem not_pastCaret_iff {opened : OpenClass} :
    ¬opened.PastCaret ↔ opened.negated = false ∧ opened.members = [] := by
  rw [PastCaret, not_or, Bool.not_eq_true, not_not]

/-- What becomes of an open class with one more character: it is closed, or stays
open. -/
inductive Becomes (opened : OpenClass) : Char → Atom ⊕ OpenClass → Prop where
  | escaped {char : Char} :
      opened.escaped = true →
      opened.Becomes char
        (.inr { opened with escaped := false, members := char :: opened.members })
  | escape :
      opened.escaped = false →
      opened.Becomes '\\' (.inr { opened with escaped := true })
  | negated :
      opened.escaped = false → ¬opened.PastCaret →
      opened.Becomes '^' (.inr { opened with negated := true })
  | closed :
      opened.escaped = false →
      opened.Becomes ']' (.inl opened.close)
  | bare {char : Char} :
      opened.escaped = false → (WrittenMember.bare char).WellFormed →
      (char = '^' → opened.PastCaret) →
      opened.Becomes char (.inr { opened with members := char :: opened.members })

variable {opened : OpenClass} {char : Char} {taken : Atom ⊕ OpenClass}

theorem becomes_read (opened : OpenClass) (char : Char) :
    opened.Becomes char (opened.read char) := by
  rw [read]
  split
  · next escaped => exact .escaped escaped
  · next plain =>
      rw [Bool.not_eq_true] at plain
      split
      · next backslash =>
          subst backslash
          exact .escape plain
      · next noBackslash =>
          split
          · next caret =>
              obtain ⟨rfl, empty⟩ := caret
              exact .negated plain (not_pastCaret_iff.mpr empty)
          · next noCaret =>
              split
              · next bracket =>
                  subst bracket
                  exact .closed plain
              · next noBracket =>
                  refine .bare plain ⟨noBackslash, noBracket⟩ fun caret => ?_
                  by_contra atCaret
                  exact noCaret ⟨caret, not_pastCaret_iff.mp atCaret⟩

theorem Becomes.read_eq (becomes : opened.Becomes char taken) : opened.read char = taken := by
  cases becomes with
  | escaped escaped => rw [read, if_pos escaped]
  | escape plain => simp [read, plain]
  | negated plain atCaret => simp [read, plain, not_pastCaret_iff.mp atCaret]
  | closed plain => simp [read, plain]
  | bare plain formed past =>
      have noCaret : ¬(char = '^' ∧ opened.negated = false ∧ opened.members = []) := by
        rintro ⟨caret, empty⟩
        exact not_pastCaret_iff.mpr empty (past caret)
      simp [read, plain, formed.1, noCaret, formed.2]

end OpenClass

namespace PatternReader

variable {reader next : PatternReader} {position : Nat} {operators : List Operator}
  {char : Char} {front text : List Char}

theorem readAll_cons_of_ok (given : reader.read char = .ok next) :
    reader.readAll (char :: text) = next.readAll text := by
  rw [readAll_cons, given]
  rfl

/-- A text is read to its end by way of its first character. -/
theorem exists_read_of_readAll_cons (given : reader.readAll (char :: text) = .ok next) :
    ∃ middle, reader.read char = .ok middle ∧ middle.readAll text = .ok next := by
  rw [readAll_cons] at given
  cases first : reader.read char with
  | error error =>
      rw [first] at given
      cases given
  | ok middle =>
      rw [first] at given
      exact ⟨middle, rfl, given⟩

theorem readAll_append_of_ok (given : reader.readAll front = .ok next) :
    reader.readAll (front ++ text) = next.readAll text := by
  rw [readAll_append, given]
  rfl

/-- What becomes of a reader between two items with one more character. -/
inductive Proceeds (reader : PatternReader) :
    Char → Except PatternError PatternReader → Prop where
  | escape : reader.Proceeds '\\' (.ok (reader.enter (.escape reader.position)))
  | opened :
      reader.Proceeds '[' (.ok (reader.enter (.inClass { openedAt := reader.position })))
  | any : reader.Proceeds '.' (.ok (reader.push .any))
  | quantified {char : Char} {quantifier : Quantifier} :
      Quantifier.ofChar? char = some quantifier →
      reader.Proceeds char (reader.quantify char quantifier)
  | literal {char : Char} :
      (WrittenAtom.bare char).WellFormed →
      reader.Proceeds char (.ok (reader.push (.literal char)))

theorem proceeds_read (ready : reader.mode = .ready) (char : Char) :
    reader.Proceeds char (reader.read char) := by
  rw [read, ready]
  simp only
  split
  · next backslash =>
      subst backslash
      exact .escape
  · next noBackslash =>
      split
      · next bracket =>
          subst bracket
          exact .opened
      · next noBracket =>
          split
          · next dot =>
              subst dot
              exact .any
          · next noDot =>
              split
              · next quantifier meant => exact .quantified meant
              · next bare =>
                  rw [Quantifier.ofChar?_eq_none_iff] at bare
                  simp only [List.mem_cons, not_or] at bare
                  apply Proceeds.literal
                  simp [WrittenAtom.WellFormed, noBackslash, noBracket, noDot, bare]

theorem Proceeds.read_eq {result : Except PatternError PatternReader}
    (proceeds : reader.Proceeds char result) (ready : reader.mode = .ready) :
    reader.read char = result := by
  cases proceeds with
  | escape => simp [read, ready]
  | opened => simp [read, ready]
  | any => simp [read, ready]
  | quantified meant =>
      have plain := Quantifier.not_special_of_ofChar? meant
      simp only [List.mem_cons, not_or] at plain
      simp [read, ready, plain, meant]
  | literal formed =>
      have bare : Quantifier.ofChar? char = none := WrittenAtom.ofChar?_lead formed
      simp only [WrittenAtom.WellFormed, List.mem_cons, not_or] at formed
      simp [read, ready, formed, bare]

theorem read_inClass_of_inl {opened : OpenClass} {atom : Atom}
    (closed : opened.read char = .inl atom) :
    read ⟨position, operators, .inClass opened⟩ char =
      .ok ⟨position + 1, ⟨atom, .once⟩ :: operators, .ready⟩ := by
  simp only [read, closed]
  rfl

theorem read_inClass_of_inr {opened stillOpen : OpenClass}
    (open' : opened.read char = .inr stillOpen) :
    read ⟨position, operators, .inClass opened⟩ char =
      .ok ⟨position + 1, operators, .inClass stillOpen⟩ := by
  simp only [read, open']
  rfl

theorem readAll_member {member : WrittenMember} {opened : OpenClass}
    (formed : member.WellFormed) (plain : opened.escaped = false)
    (past : member = .bare '^' → opened.PastCaret) :
    readAll ⟨position, operators, .inClass opened⟩ member.text =
      .ok ⟨position + member.text.length, operators,
        .inClass { opened with members := member.char :: opened.members }⟩ := by
  cases member with
  | bare char =>
      have becomes := OpenClass.Becomes.bare plain formed fun caret => past (caret ▸ rfl)
      rw [WrittenMember.text, readAll_cons_of_ok (read_inClass_of_inr becomes.read_eq)]
      rfl
  | escaped char =>
      obtain ⟨openedAt, negated, escaped, members⟩ := opened
      obtain rfl : escaped = false := plain
      rfl

theorem readAll_body {body : List WrittenMember} {opened : OpenClass}
    (formed : ∀ member ∈ body, member.WellFormed) (plain : opened.escaped = false)
    (past : body.head? = some (.bare '^') → opened.PastCaret) :
    readAll ⟨position, operators, .inClass opened⟩ (body.flatMap WrittenMember.text) =
      .ok ⟨position + (body.flatMap WrittenMember.text).length, operators, .inClass
        { opened with members := (body.map WrittenMember.char).reverse ++ opened.members }⟩ := by
  induction body generalizing position opened with
  | nil => rfl
  | cons member body ih =>
      obtain ⟨first, later⟩ := List.forall_mem_cons.mp formed
      have plain' : OpenClass.escaped
          { opened with members := member.char :: opened.members } = false := plain
      rw [List.flatMap_cons,
        readAll_append_of_ok (readAll_member first plain fun caret => past (caret ▸ rfl)),
        ih later plain' fun _ => .inr (List.cons_ne_nil _ _)]
      simp [Nat.add_assoc]

/-- The rest of a class behind its opening bracket and caret. -/
theorem readAll_class {body : List WrittenMember} {openedAt : Nat} {negated : Bool}
    (formed : ∀ member ∈ body, member.WellFormed)
    (begins : negated = false → body.head? ≠ some (.bare '^')) :
    readAll ⟨position, operators, .inClass { openedAt, negated }⟩
        (body.flatMap WrittenMember.text ++ [']']) =
      .ok ⟨position + (body.flatMap WrittenMember.text ++ [']']).length,
        ⟨(if negated then Atom.noneOf else Atom.oneOf)
          (.ofList (body.map WrittenMember.char)), .once⟩ :: operators, .ready⟩ := by
  have past : body.head? = some (.bare '^') →
      OpenClass.PastCaret { openedAt, negated } := by
    intro caret
    cases negated with
    | true => exact .inl rfl
    | false => exact absurd caret (begins rfl)
  rw [readAll_append_of_ok (readAll_body formed rfl past),
    readAll_cons_of_ok (read_inClass_of_inl (OpenClass.Becomes.closed rfl).read_eq), readAll_nil,
    OpenClass.close, List.append_nil, CharSet.ofList_reverse]
  cases negated with
  | true => simp [Nat.add_assoc]
  | false => simp [Nat.add_assoc]

theorem readAll_atom {atom : WrittenAtom} (formed : atom.WellFormed) :
    readAll ⟨position, operators, .ready⟩ atom.text =
      .ok ⟨position + atom.text.length, ⟨atom.atom, .once⟩ :: operators, .ready⟩ := by
  cases atom with
  | bare char =>
      rw [WrittenAtom.text, readAll_cons_of_ok ((Proceeds.literal formed).read_eq rfl)]
      rfl
  | any => rfl
  | escaped char => rfl
  | oneOf body =>
      have opening : read ⟨position, operators, .ready⟩ '[' =
          .ok ⟨position + 1, operators, .inClass { openedAt := position }⟩ := rfl
      rw [WrittenAtom.text, readAll_cons_of_ok opening, readAll_class formed.2 fun _ => formed.1]
      simp [WrittenAtom.atom, Nat.add_assoc, Nat.add_comm 1]
  | noneOf body =>
      have opening : readAll ⟨position, operators, .ready⟩ ['[', '^'] =
          .ok ⟨position + 2, operators, .inClass { openedAt := position, negated := true }⟩ := rfl
      have behind : readAll ⟨position + 2, operators,
            .inClass { openedAt := position, negated := true }⟩
          (body.flatMap WrittenMember.text ++ [']']) = _ :=
        readAll_class formed fun plain => absurd plain.symm Bool.false_ne_true
      rw [WrittenAtom.text]
      change readAll _ (['[', '^'] ++ (body.flatMap WrittenMember.text ++ [']'])) = _
      rw [readAll_append_of_ok opening, behind]
      simp [WrittenAtom.atom, Nat.add_assoc, Nat.add_comm 2]

theorem readAll_quantifiers {quantifiers : List Quantifier} {atom : Atom}
    {quantifier : Quantifier} (written : .once ∉ quantifiers) :
    readAll ⟨position, ⟨atom, quantifier⟩ :: operators, .ready⟩
        (quantifiers.flatMap Quantifier.spelling) =
      .ok ⟨position + (quantifiers.flatMap Quantifier.spelling).length,
        ⟨atom, quantifiers.getLast?.getD quantifier⟩ :: operators, .ready⟩ := by
  induction quantifiers generalizing position quantifier with
  | nil => rfl
  | cons first later ih =>
      obtain ⟨char, spelled, meant⟩ :=
        Quantifier.exists_char fun once => written (once ▸ List.mem_cons_self)
      have quantified : read ⟨position, ⟨atom, quantifier⟩ :: operators, .ready⟩ char =
          .ok ⟨position + 1, ⟨atom, first⟩ :: operators, .ready⟩ :=
        (Proceeds.quantified meant).read_eq rfl
      rw [List.flatMap_cons, spelled, List.singleton_append, readAll_cons_of_ok quantified,
        ih fun member => written (List.mem_cons_of_mem _ member)]
      simp [Nat.add_assoc, Nat.add_comm 1, List.getLast?_cons]

theorem readAll_item {item : WrittenItem} (formed : item.WellFormed) :
    readAll ⟨position, operators, .ready⟩ item.text =
      .ok ⟨position + item.text.length, item.operator :: operators, .ready⟩ := by
  rw [WrittenItem.text, readAll_append_of_ok (readAll_atom formed.1),
    readAll_quantifiers formed.2, List.length_append, Nat.add_assoc, WrittenItem.operator]

theorem readAll_items {items : List WrittenItem}
    (formed : ∀ item ∈ items, item.WellFormed) :
    readAll ⟨position, operators, .ready⟩ (items.flatMap WrittenItem.text) =
      .ok ⟨position + (items.flatMap WrittenItem.text).length,
        (items.map WrittenItem.operator).reverse ++ operators, .ready⟩ := by
  induction items generalizing position operators with
  | nil => rfl
  | cons item items ih =>
      obtain ⟨first, later⟩ := List.forall_mem_cons.mp formed
      rw [List.flatMap_cons, readAll_append_of_ok (readAll_item first), ih later]
      simp [Nat.add_assoc]

end PatternReader

theorem Derives.readAll_eq {items : List WrittenItem} {text : List Char}
    {operators : List Operator} (derived : Derives items text operators) :
    PatternReader.readAll {} text = .ok ⟨text.length, operators.reverse, .ready⟩ := by
  have given : PatternReader.readAll ⟨0, [], .ready⟩ (items.flatMap WrittenItem.text) = _ :=
    PatternReader.readAll_items derived.wellFormed
  rw [derived.text_eq, derived.operators_eq, Nat.zero_add, List.append_nil] at given
  exact given

/-- A text that has a derivation is read as what the derivation means. -/
theorem Derives.ofChars_eq {items : List WrittenItem} {text : List Char}
    {operators : List Operator} (derived : Derives items text operators) :
    Pattern.ofChars text = .ok ⟨operators⟩ := by
  rw [Pattern.ofChars, derived.readAll_eq, Except.bind]
  simp [PatternReader.finish]

end PatternMatcher
