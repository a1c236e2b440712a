import Mathlib
import PatternMatcher.Proofs.Reading

/-!
# Patterns are the texts with a derivation

A reader always has a derivation of whole items behind it, and knows of an escape or a
class that it has opened since: `Reads` says so, `Reads.step` that a character keeps
it.  Hence a text is read as a pattern exactly if it has a derivation, and the
derivation is unique.
-/

namespace PatternMatcher

namespace Derives

variable {items : List WrittenItem} {text : List Char} {operators : List Operator}

theorem nil : Derives [] [] [] := ⟨List.forall_mem_nil _, rfl, .nil⟩

theorem snoc {item : WrittenItem} (derived : Derives items text operators)
    (formed : item.WellFormed) :
    Derives (items ++ [item]) (text ++ item.text) (operators ++ [item.operator]) := by
  apply of_map_eq
  · intro other member
    rcases List.mem_append.mp member with earlier | last
    · exact derived.wellFormed other earlier
    · rwa [List.mem_singleton.mp last]
  · rw [List.flatMap_append, derived.text_eq, List.flatMap_singleton]
  · rw [List.map_append, derived.operators_eq, List.map_singleton]

theorem snoc_atom {atom : WrittenAtom} (derived : Derives items text operators)
    (formed : atom.WellFormed) :
    Derives (items ++ [⟨atom, []⟩]) (text ++ atom.text)
      (operators ++ [⟨atom.atom, .once⟩]) := by
  have written : (WrittenItem.mk atom []).text = atom.text := List.append_nil _
  rw [← written]
  exact derived.snoc ⟨formed, List.not_mem_nil⟩

/-- A quantifier written behind the last item replaces the one meant. -/
theorem requantify {latest : Operator} {quantifier : Quantifier}
    (derived : Derives items text (operators ++ [latest])) (written : quantifier ≠ .once) :
    ∃ items', Derives items' (text ++ quantifier.spelling)
      (operators ++ [{ latest with quantifier }]) := by
  obtain ⟨front, back, rfl, fronts, backs⟩ := List.map_eq_append_iff.mp derived.operators_eq
  obtain ⟨⟨atom, quantifiers⟩, rfl, rfl⟩ := List.map_eq_singleton_iff.mp backs
  obtain ⟨formedFront, formedBack⟩ := List.forall_mem_append.mp derived.wellFormed
  obtain ⟨formedAtom, formedQuantifiers⟩ := formedBack _ List.mem_cons_self
  have whole : Derives front (front.flatMap WrittenItem.text) operators :=
    .of_map_eq formedFront rfl fronts
  have formedItem : WrittenItem.WellFormed ⟨atom, quantifiers ++ [quantifier]⟩ := by
    refine ⟨formedAtom, fun once => ?_⟩
    rcases List.mem_append.mp once with earlier | last
    · exact formedQuantifiers earlier
    · exact written (List.mem_singleton.mp last).symm
  have more := whole.snoc formedItem
  refine ⟨front ++ [⟨atom, quantifiers ++ [quantifier]⟩], ?_⟩
  rw [← derived.text_eq]
  simpa [WrittenItem.text, WrittenItem.operator] using more

end Derives

/-- What a class begins with. -/
def OpenClass.opening (opened : OpenClass) : List Char :=
  '[' :: if opened.negated then ['^'] else []

/-- What is written of a class that is still open. -/
structure OpenClass.Holds (opened : OpenClass) (body : List WrittenMember)
    (inside : List Char) : Prop where
  formed : ∀ member ∈ body, member.WellFormed
  begins : opened.negated = false → body.head? ≠ some (.bare '^')
  members_eq : opened.members = (body.map WrittenMember.char).reverse
  inside_eq : inside = opened.opening ++ body.flatMap WrittenMember.text ++
    if opened.escaped then ['\\'] else []

namespace OpenClass.Holds

variable {opened next : OpenClass} {body : List WrittenMember} {inside : List Char}
  {char : Char}

theorem add (holds : opened.Holds body inside) {member : WrittenMember}
    (formed : member.WellFormed)
    (past : member = .bare '^' → opened.PastCaret) :
    OpenClass.Holds { opened with escaped := false, members := member.char :: opened.members }
      (body ++ [member])
      (opened.opening ++ body.flatMap WrittenMember.text ++ member.text) where
  formed := by
    intro other among
    rcases List.mem_append.mp among with earlier | last
    · exact holds.formed other earlier
    · rwa [List.mem_singleton.mp last]
  begins := by
    intro notNegated
    cases body with
    | cons first later => exact holds.begins notNegated
    | nil =>
        intro caret
        rcases past (Option.some.inj caret) with negated | some
        · exact absurd (notNegated.symm.trans negated) Bool.false_ne_true
        · exact some holds.members_eq
  members_eq := by
    rw [List.map_append, List.reverse_append, ← holds.members_eq]
    rfl
  inside_eq := by
    simp [OpenClass.opening]

theorem of_becomes_inr (holds : opened.Holds body inside)
    (becomes : opened.Becomes char (.inr next)) :
    ∃ body', next.Holds body' (inside ++ [char]) ∧ next.openedAt = opened.openedAt := by
  obtain ⟨openedAt, negated, escaped, members⟩ := opened
  rw [holds.inside_eq]
  cases becomes with
  | escaped pending =>
      obtain rfl : escaped = true := pending
      rw [if_pos rfl, List.append_assoc]
      have formed : (WrittenMember.escaped char).WellFormed := trivial
      exact ⟨body ++ [WrittenMember.escaped char], holds.add formed nofun, rfl⟩
  | escape plain =>
      obtain rfl : escaped = false := plain
      rw [if_neg Bool.false_ne_true, List.append_nil]
      exact ⟨body, ⟨holds.formed, holds.begins, holds.members_eq, rfl⟩, rfl⟩
  | negated plain atCaret =>
      obtain rfl : escaped = false := plain
      obtain ⟨notNegated, nothing⟩ := not_pastCaret_iff.mp atCaret
      obtain rfl : negated = false := notNegated
      obtain rfl : members = [] := nothing
      have empty : body = [] := by
        simpa using holds.members_eq.symm
      subst empty
      exact ⟨[], ⟨holds.formed, nofun, rfl, rfl⟩, rfl⟩
  | bare plain formed past =>
      obtain rfl : escaped = false := plain
      rw [if_neg Bool.false_ne_true, List.append_nil]
      exact ⟨body ++ [WrittenMember.bare char],
        holds.add formed fun caret => past (WrittenMember.bare.inj caret), rfl⟩

theorem of_becomes_inl {atom : Atom} (holds : opened.Holds body inside)
    (becomes : opened.Becomes char (.inl atom)) :
    ∃ written : WrittenAtom, written.WellFormed ∧ written.text = inside ++ [char] ∧
      written.atom = atom := by
  cases becomes with
  | closed plain =>
      have set : CharSet.ofList opened.members = .ofList (body.map WrittenMember.char) := by
        rw [holds.members_eq, CharSet.ofList_reverse]
      rw [holds.inside_eq, OpenClass.close, OpenClass.opening, plain, set]
      cases negated : opened.negated with
      | true =>
          refine ⟨.noneOf body, holds.formed, ?_, rfl⟩
          simp [WrittenAtom.text]
      | false =>
          refine ⟨.oneOf body, ⟨holds.begins negated, holds.formed⟩, ?_, rfl⟩
          simp [WrittenAtom.text]

end OpenClass.Holds

namespace PatternReader

/-- What a reader has read: whole items, and what they are followed by. -/
inductive Reads : List Char → PatternReader → Prop where
  | ready {items : List WrittenItem} {text : List Char} {operators : List Operator}
      {position : Nat} :
      Derives items text operators.reverse → position = text.length →
      Reads text ⟨position, operators, .ready⟩
  | escape {items : List WrittenItem} {text : List Char} {operators : List Operator}
      {position : Nat} :
      Derives items text operators.reverse → position = text.length →
      Reads (text ++ ['\\']) ⟨position + 1, operators, .escape position⟩
  | inClass {items : List WrittenItem} {text inside : List Char}
      {operators : List Operator} {position : Nat} {opened : OpenClass}
      {body : List WrittenMember} :
      Derives items text operators.reverse → opened.Holds body inside →
      opened.openedAt = text.length → position = (text ++ inside).length →
      Reads (text ++ inside) ⟨position, operators, .inClass opened⟩

theorem reads_push {items : List WrittenItem} {text : List Char}
    {operators : List Operator} {position : Nat} {atom : WrittenAtom}
    (derived : Derives items text operators.reverse) (formed : atom.WellFormed)
    (placed : position = (text ++ atom.text).length) :
    Reads (text ++ atom.text) ⟨position, ⟨atom.atom, .once⟩ :: operators, .ready⟩ := by
  have more := derived.snoc_atom formed
  rw [← List.reverse_cons] at more
  exact .ready more placed

theorem reads_quantify {items : List WrittenItem} {text : List Char}
    {operators : List Operator} {position : Nat} {char : Char} {quantifier : Quantifier}
    {next : PatternReader} (derived : Derives items text operators.reverse)
    (placed : position = text.length) (meant : Quantifier.ofChar? char = some quantifier)
    (given : quantify ⟨position, operators, .ready⟩ char quantifier = .ok next) :
    Reads (text ++ [char]) next := by
  obtain ⟨written, spelled⟩ := Quantifier.spelling_of_ofChar? meant
  cases operators with
  | nil => cases given
  | cons latest earlier =>
      cases given
      rw [List.reverse_cons] at derived
      obtain ⟨items', more⟩ := derived.requantify written
      rw [spelled, ← List.reverse_cons] at more
      exact .ready more (by rw [placed, List.length_append]; rfl)

/-- One more character keeps what a reader knows of the text behind it. -/
theorem Reads.step {text : List Char} {reader next : PatternReader} {char : Char}
    (reads : Reads text reader) (given : reader.read char = .ok next) :
    Reads (text ++ [char]) next := by
  cases reads with
  | @escape items text operators position derived placed =>
      cases given
      have formed : (WrittenAtom.escaped char).WellFormed := trivial
      have behind : position + 1 + 1 = (text ++ (WrittenAtom.escaped char).text).length := by
        rw [placed, List.length_append]
        rfl
      rw [List.append_assoc]
      exact reads_push derived formed behind
  | @inClass items text inside operators position opened body derived holds openedAt placed =>
      have behind : position + 1 = (text ++ (inside ++ [char])).length := by
        simp [placed, Nat.add_assoc]
      rw [List.append_assoc]
      have becomes := opened.becomes_read char
      rw [read] at given
      cases taken : opened.read char with
      | inl atom =>
          simp only [taken] at given becomes
          cases given
          obtain ⟨written, formed, texts, rfl⟩ := holds.of_becomes_inl becomes
          rw [← texts] at behind ⊢
          exact reads_push derived formed behind
      | inr stillOpen =>
          simp only [taken] at given becomes
          cases given
          obtain ⟨body', holds', same⟩ := holds.of_becomes_inr becomes
          exact .inClass derived holds' (same.trans openedAt) behind
  | @ready items text operators position derived placed =>
      have behind : position + 1 = (text ++ [char]).length := by
        rw [placed, List.length_append]
        rfl
      have ready : (PatternReader.mk position operators .ready).mode = .ready := rfl
      have proceeds := proceeds_read ready char
      rw [given] at proceeds
      generalize result : Except.ok next = outcome at proceeds
      cases proceeds with
      | escape =>
          cases result
          exact .escape derived placed
      | opened =>
          cases result
          have holds : OpenClass.Holds { openedAt := position } [] ['['] :=
            ⟨List.forall_mem_nil _, fun _ => (Option.some_ne_none _).symm, rfl, rfl⟩
          exact .inClass derived holds placed behind
      | any =>
          cases result
          have formed : WrittenAtom.any.WellFormed := trivial
          exact reads_push derived formed behind
      | quantified meant => exact reads_quantify derived placed meant result.symm
      | literal formed =>
          cases result
          exact reads_push derived formed behind

theorem reads_of_readAll {front text : List Char} {reader next : PatternReader}
    (reads : Reads front reader) (given : reader.readAll text = .ok next) :
    Reads (front ++ text) next := by
  induction text generalizing front reader with
  | nil =>
      cases given
      rwa [List.append_nil]
  | cons char text ih =>
      obtain ⟨middle, first, later⟩ := exists_read_of_readAll_cons given
      have rest := ih (reads.step first) later
      rwa [List.append_assoc] at rest

end PatternReader

namespace Pattern

theorem exists_derives_of_ofChars {text : List Char} {pattern : Pattern}
    (given : ofChars text = .ok pattern) :
    ∃ items, Derives items text pattern.operators := by
  cases read : PatternReader.readAll {} text with
  | error error =>
      rw [ofChars, read] at given
      cases given
  | ok reader =>
      rw [ofChars, read] at given
      have reads : PatternReader.Reads [] {} := .ready .nil rfl
      have reads' := PatternReader.reads_of_readAll reads read
      rw [List.nil_append] at reads'
      cases reads' with
      | ready derived _ =>
          cases given
          exact ⟨_, derived⟩
      | escape _ _ => cases given
      | inClass _ _ _ _ => cases given

theorem ofChars_eq_ok_iff {text : List Char} {pattern : Pattern} :
    ofChars text = .ok pattern ↔ ∃ items, Derives items text pattern.operators := by
  constructor
  · exact exists_derives_of_ofChars
  · intro derivable
    obtain ⟨items, derived⟩ := derivable
    exact derived.ofChars_eq

/-- A text is a pattern exactly if it has a derivation, which is then its only one;
the pattern consists of the operators that the items mean.  Any other text is an
error. -/
theorem parse_eq_ok_iff_derives (text : String) :
    (∀ pattern, parse text = .ok pattern ↔
      ∃ items, Derives items text.toList pattern.operators) ∧
    (∀ items items' operators operators', Derives items text.toList operators →
      Derives items' text.toList operators' → items = items' ∧ operators = operators') ∧
    ((∃ error, parse text = .error error) ↔
      ¬∃ items operators, Derives items text.toList operators) := by
  refine ⟨fun pattern => ofChars_eq_ok_iff, ?_, ?_⟩
  · intro items items' operators operators' derived derived'
    obtain rfl := derived.items_unique derived'
    exact ⟨rfl, derived.operators_eq.symm.trans derived'.operators_eq⟩
  · constructor
    · intro failed derivable
      obtain ⟨error, failed⟩ := failed
      obtain ⟨items, operators, derived⟩ := derivable
      rw [parse, derived.ofChars_eq] at failed
      cases failed
    · intro underivable
      cases given : parse text with
      | error error => exact ⟨error, rfl⟩
      | ok pattern =>
          obtain ⟨items, derived⟩ := exists_derives_of_ofChars given
          exact absurd ⟨items, _, derived⟩ underivable

end Pattern

end PatternMatcher
