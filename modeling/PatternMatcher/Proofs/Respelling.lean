import Mathlib
import PatternMatcher.Proofs.Membership
import PatternMatcher.Proofs.Reading

/-!
# Classes spelled in other ways

A set has one form, whatever the list it was built from: the characters of the list in ascending
order, each once.  So the members of a class may be written in any order, repeated, and escaped or
not, and the pattern that is read is the same one, not only one that accepts the same.
-/

namespace PatternMatcher

/-- Two written atoms that differ in how the members of a class are written, or not at all. -/
inductive WrittenAtom.Respells : WrittenAtom → WrittenAtom → Prop where
  | refl (atom : WrittenAtom) : Respells atom atom
  | oneOf {body body' : List WrittenMember} :
      (∀ char, char ∈ body.map WrittenMember.char ↔ char ∈ body'.map WrittenMember.char) →
      Respells (.oneOf body) (.oneOf body')
  | noneOf {body body' : List WrittenMember} :
      (∀ char, char ∈ body.map WrittenMember.char ↔ char ∈ body'.map WrittenMember.char) →
      Respells (.noneOf body) (.noneOf body')

structure WrittenItem.Respells (item other : WrittenItem) : Prop where
  atom : item.atom.Respells other.atom
  quantifiers : item.quantifiers = other.quantifiers

theorem WrittenAtom.Respells.atom_eq {first second : WrittenAtom}
    (respelled : first.Respells second) : first.atom = second.atom := by
  cases respelled with
  | refl => rfl
  | oneOf same => rw [atom, atom, CharSet.ofList_eq_iff.mpr same]
  | noneOf same => rw [atom, atom, CharSet.ofList_eq_iff.mpr same]

theorem WrittenItem.Respells.operator_eq {item other : WrittenItem}
    (respelled : item.Respells other) : item.operator = other.operator := by
  rw [operator, operator, respelled.atom.atom_eq, respelled.quantifiers]

theorem map_operator_of_respells {items others : List WrittenItem}
    (respelled : List.Forall₂ WrittenItem.Respells items others) :
    items.map WrittenItem.operator = others.map WrittenItem.operator := by
  induction respelled with
  | nil => rfl
  | cons first _ ih => rw [List.map_cons, List.map_cons, first.operator_eq, ih]

/-- The text of some items. -/
def WrittenItem.textAll (items : List WrittenItem) : String :=
  .ofList (items.flatMap WrittenItem.text)

theorem WrittenItem.parse_textAll {items : List WrittenItem}
    (formed : ∀ item ∈ items, item.WellFormed) :
    Pattern.parse (textAll items) = .ok ⟨items.map operator⟩ := by
  have derived : Derives items (items.flatMap text) (items.map operator) :=
    .of_map_eq formed rfl rfl
  rw [Pattern.parse, textAll, String.toList_ofList]
  exact derived.ofChars_eq

namespace CharSet

theorem accepts_oneOf_iff {chars : List Char} {char : Char} :
    (Atom.oneOf (ofList chars)).accepts char = true ↔ char ∈ chars :=
  contains_ofList

theorem accepts_noneOf_iff {chars : List Char} {char : Char} :
    (Atom.noneOf (ofList chars)).accepts char = true ↔ char ∉ chars := by
  rw [Atom.accepts, Bool.not_eq_true', ← Bool.not_eq_true, contains_ofList]

/-- A set is one value for all the lists with its members, and so is a pattern for all the ways
to spell its classes. -/
theorem ofList_canonical (chars others : List Char) :
    (∀ char, (ofList chars).contains char = true ↔ char ∈ chars) ∧
    ((ofList chars).toList.Pairwise (· < ·) ∧
      (∀ char, char ∈ (ofList chars).toList ↔ char ∈ chars) ∧
      (ofList chars).size = chars.toFinset.card) ∧
    (ofList chars = ofList others ↔ ∀ char, char ∈ chars ↔ char ∈ others) ∧
    ofList (ofList chars).toList = ofList chars ∧
    (∀ char, ((Atom.oneOf (ofList chars)).accepts char = true ↔ char ∈ chars) ∧
      ((Atom.noneOf (ofList chars)).accepts char = true ↔ char ∉ chars)) ∧
    ∀ items respelled : List WrittenItem,
      (∀ item ∈ items, item.WellFormed) → (∀ item ∈ respelled, item.WellFormed) →
      List.Forall₂ WrittenItem.Respells items respelled →
      ∃ pattern, Pattern.parse (WrittenItem.textAll items) = .ok pattern ∧
        Pattern.parse (WrittenItem.textAll respelled) = .ok pattern := by
  refine ⟨fun char => contains_ofList, ⟨(ofList chars).ascending, fun char => mem_toList_ofList,
    size_ofList chars⟩, ofList_eq_iff, ofList_toList _,
    fun char => ⟨accepts_oneOf_iff, accepts_noneOf_iff⟩, ?_⟩
  intro items respelled formed formed' same
  refine ⟨_, WrittenItem.parse_textAll formed, ?_⟩
  rw [WrittenItem.parse_textAll formed', map_operator_of_respells same]

/-- Two classes, one of them negated, with their members moved, repeated and escaped. -/
theorem ofList_canonical_moved :
    let items : List WrittenItem :=
      [⟨.oneOf [.bare 'b', .escaped ']', .bare 'a'], [.oneOrMore]⟩, ⟨.any, []⟩,
        ⟨.noneOf [.bare '^', .bare 'é'], []⟩]
    let respelled : List WrittenItem :=
      [⟨.oneOf [.bare 'a', .bare 'b', .escaped 'a', .escaped ']'], [.oneOrMore]⟩, ⟨.any, []⟩,
        ⟨.noneOf [.bare 'é', .escaped '^', .bare 'é'], []⟩]
    WrittenItem.textAll items = "[b\\]a]+.[^^é]" ∧
      WrittenItem.textAll respelled = "[ab\\a\\]]+.[^é\\^é]" ∧
      (∀ item ∈ items, item.WellFormed) ∧ (∀ item ∈ respelled, item.WellFormed) ∧
      List.Forall₂ WrittenItem.Respells items respelled ∧
      ∃ pattern, Pattern.parse (WrittenItem.textAll items) = .ok pattern ∧
        Pattern.parse (WrittenItem.textAll respelled) = .ok pattern := by
  intro items respelled
  have formed : ∀ item ∈ items, item.WellFormed := by
    simp [items, WrittenItem.WellFormed, WrittenAtom.WellFormed, WrittenMember.WellFormed]
  have formed' : ∀ item ∈ respelled, item.WellFormed := by
    simp [respelled, WrittenItem.WellFormed, WrittenAtom.WellFormed, WrittenMember.WellFormed]
  have same : List.Forall₂ WrittenItem.Respells items respelled := by
    refine .cons ⟨.oneOf ?_, rfl⟩ (.cons ⟨.refl _, rfl⟩ (.cons ⟨.noneOf ?_, rfl⟩ .nil))
    · intro char
      simp only [List.map_cons, List.map_nil, WrittenMember.char, List.mem_cons]
      tauto
    · intro char
      simp only [List.map_cons, List.map_nil, WrittenMember.char, List.mem_cons]
      tauto
  obtain ⟨-, -, -, -, -, respells⟩ := ofList_canonical [] []
  exact ⟨by decide +kernel, by decide +kernel, formed, formed', same,
    respells items respelled formed formed' same⟩

end CharSet

end PatternMatcher
