import Mathlib
import PatternMatcher.Proofs.Language

/-!
# Reading back the written form

The written form of a pattern has a derivation that means the pattern's operators:
every special character is meant as an escaped one, every other as itself.  So the
written form is read as the pattern it was written for, whatever stands next to what,
and no two patterns are written alike.
-/

namespace PatternMatcher

/-- How the printer means a member of a class. -/
def WrittenMember.ofChar (char : Char) : WrittenMember :=
  if isSpecialInClass char then .escaped char else .bare char

/-- How the printer means an atom. -/
def WrittenAtom.ofAtom : Atom → WrittenAtom
  | .literal char => if isSpecial char then .escaped char else .bare char
  | .any => .any
  | .oneOf set => .oneOf (set.toList.map .ofChar)
  | .noneOf set => .noneOf (set.toList.map .ofChar)

/-- How the printer means an operator. -/
def WrittenItem.ofOperator (operator : Operator) : WrittenItem where
  atom := .ofAtom operator.atom
  quantifiers := if operator.quantifier = .once then [] else [operator.quantifier]

namespace WrittenMember

theorem text_ofChar (char : Char) : (ofChar char).text = spellChar isSpecialInClass char := by
  rw [ofChar, spellChar]
  split
  · rfl
  · rfl

theorem char_ofChar (char : Char) : (ofChar char).char = char := by
  rw [ofChar]
  split
  · rfl
  · rfl

theorem wellFormed_ofChar (char : Char) : (ofChar char).WellFormed := by
  rw [ofChar]
  split
  · trivial
  · next plain =>
      simp only [isSpecialInClass, List.mem_cons, decide_eq_true_eq, not_or] at plain
      exact ⟨plain.1, plain.2.1⟩

theorem ofChar_ne_caret (char : Char) : ofChar char ≠ .bare '^' := by
  rw [ofChar]
  split
  · nofun
  · next plain =>
      intro caret
      cases caret
      exact plain (by decide)

end WrittenMember

section Body

variable (set : CharSet)

theorem flatMap_text_body :
    (set.toList.map WrittenMember.ofChar).flatMap WrittenMember.text = set.spelling := by
  rw [List.flatMap_map, CharSet.spelling]
  congr 1
  funext char
  exact WrittenMember.text_ofChar char

theorem map_char_body :
    (set.toList.map WrittenMember.ofChar).map WrittenMember.char = set.toList := by
  rw [List.map_map]
  exact List.map_id'' WrittenMember.char_ofChar set.toList

theorem wellFormed_body :
    ∀ member ∈ set.toList.map WrittenMember.ofChar, member.WellFormed := by
  intro member among
  obtain ⟨char, _, rfl⟩ := List.mem_map.mp among
  exact WrittenMember.wellFormed_ofChar char

theorem head?_body_ne_caret :
    (set.toList.map WrittenMember.ofChar).head? ≠ some (.bare '^') := by
  intro caret
  obtain ⟨char, _, same⟩ := List.mem_map.mp (List.mem_of_head? caret)
  exact WrittenMember.ofChar_ne_caret char same

end Body

namespace WrittenAtom

theorem text_ofAtom (atom : Atom) : (ofAtom atom).text = atom.spelling := by
  cases atom with
  | literal char =>
      rw [ofAtom, Atom.spelling, spellChar]
      split
      · rfl
      · rfl
  | any => rfl
  | oneOf set => rw [ofAtom, text, flatMap_text_body, Atom.spelling]
  | noneOf set => rw [ofAtom, text, flatMap_text_body, Atom.spelling]

theorem atom_ofAtom (atom : Atom) : (ofAtom atom).atom = atom := by
  cases atom with
  | literal char =>
      rw [ofAtom]
      split
      · rfl
      · rfl
  | any => rfl
  | oneOf set => rw [ofAtom, WrittenAtom.atom, map_char_body, CharSet.ofList_toList]
  | noneOf set => rw [ofAtom, WrittenAtom.atom, map_char_body, CharSet.ofList_toList]

theorem wellFormed_ofAtom (atom : Atom) : (ofAtom atom).WellFormed := by
  cases atom with
  | literal char =>
      rw [ofAtom]
      split
      · trivial
      · next plain =>
          simp only [isSpecial, List.mem_cons, decide_eq_true_eq, not_or] at plain
          simp [WellFormed, plain]
  | any => trivial
  | oneOf set => exact ⟨head?_body_ne_caret set, wellFormed_body set⟩
  | noneOf set => exact wellFormed_body set

end WrittenAtom

namespace WrittenItem

variable (operator : Operator)

theorem text_ofOperator : (ofOperator operator).text = operator.spelling := by
  rw [text, ofOperator, WrittenAtom.text_ofAtom, Operator.spelling]
  split
  · next once => rw [once]; rfl
  · rw [List.flatMap_singleton]

theorem operator_ofOperator : (ofOperator operator).operator = operator := by
  obtain ⟨atom, quantifier⟩ := operator
  rw [WrittenItem.operator, ofOperator, WrittenAtom.atom_ofAtom]
  cases quantifier <;> rfl

theorem wellFormed_ofOperator : (ofOperator operator).WellFormed := by
  refine ⟨WrittenAtom.wellFormed_ofAtom _, ?_⟩
  rw [ofOperator]
  split
  · exact List.not_mem_nil
  · next written =>
      intro once
      exact written (List.mem_singleton.mp once).symm

end WrittenItem

namespace Pattern

theorem derives_spelling (pattern : Pattern) :
    Derives (pattern.operators.map WrittenItem.ofOperator) pattern.spelling
      pattern.operators := by
  apply Derives.of_map_eq
  · intro item among
    obtain ⟨operator, _, rfl⟩ := List.mem_map.mp among
    exact WrittenItem.wellFormed_ofOperator operator
  · rw [List.flatMap_map, spelling]
    congr 1
    funext operator
    exact WrittenItem.text_ofOperator operator
  · rw [List.map_map]
    exact List.map_id'' WrittenItem.operator_ofOperator pattern.operators

theorem parse_of_render (pattern : Pattern) : parse pattern.render = .ok pattern := by
  rw [parse, render, String.toList_ofList]
  exact pattern.derives_spelling.ofChars_eq

theorem parse_operator_render (operator : Operator) :
    parse operator.render = .ok ⟨[operator]⟩ := by
  have alone : operator.render = (Pattern.mk [operator]).render := by
    rw [render, spelling, List.flatMap_singleton, Operator.render]
  rw [alone]
  exact parse_of_render _

/-- A pattern is read back from its written form.  So patterns are equal exactly if
they are written alike, and what was read once and written is written again the
same. -/
theorem parse_render :
    (∀ pattern : Pattern, parse pattern.render = .ok pattern) ∧
    (∀ first second : Pattern, first.render = second.render ↔ first = second) ∧
    (∀ text pattern, parse text = .ok pattern →
      parse pattern.render = .ok pattern ∧
      (parse pattern.render).map render = .ok pattern.render) := by
  refine ⟨parse_of_render, ?_, ?_⟩
  · intro first second
    constructor
    · intro alike
      have readBack := first.parse_of_render
      rw [alike, second.parse_of_render] at readBack
      exact (Except.ok.inj readBack).symm
    · intro same
      rw [same]
  · intro text pattern _
    refine ⟨pattern.parse_of_render, ?_⟩
    rw [pattern.parse_of_render]
    rfl

end Pattern

end PatternMatcher
