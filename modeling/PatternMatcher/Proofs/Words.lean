import Mathlib
import PatternMatcher.Proofs.Language
import PatternMatcher.Proofs.Leftmost

/-!
# Words are matched literally

A word may be spelled as a pattern in many ways, since a backslash before a character that
needs none does no harm.  All of them are read as the same pattern, one literal for each
character.  It matches the word and nothing else as a whole, and a search with it is a search
for the first occurrence of the word: the only assignment of its operators gives one
character to each, wherever the word occurs (`assigns_ofWord_iff`).
-/

namespace PatternMatcher

/-- `Spells text word` says that a text is written for a word: each character of the word
behind a backslash or, if it has no other meaning there, bare. -/
inductive Spells : List Char → List Char → Prop where
  | nil : Spells [] []
  | escaped {char : Char} {text word : List Char} :
      Spells text word → Spells ('\\' :: char :: text) (char :: word)
  | bare {char : Char} {text word : List Char} :
      char ∉ ['\\', '[', '.', '?', '*', '+'] → Spells text word →
      Spells (char :: text) (char :: word)

/-- The word stands in a text behind its first `start` characters. -/
def OccursAt (word text : List Char) (start : Nat) : Prop :=
  ∃ before after, text = before ++ word ++ after ∧ before.length = start

/-- An operator for one character, that takes it once. -/
def Operator.literal (char : Char) : Operator := ⟨.literal char, .once⟩

def Pattern.ofWord (word : List Char) : Pattern := ⟨word.map Operator.literal⟩

section Reading

variable {items : List WrittenItem} {text word : List Char} {operators : List Operator}

theorem Derives.cons_atom {atom : WrittenAtom} (formed : atom.WellFormed)
    (derived : Derives items text operators) :
    Derives (⟨atom, []⟩ :: items) (atom.text ++ text) (⟨atom.atom, .once⟩ :: operators) where
  wellFormed := List.forall_mem_cons.mpr ⟨⟨formed, List.not_mem_nil⟩, derived.wellFormed⟩
  text_eq := by
    rw [List.flatMap_cons, derived.text_eq, WrittenItem.text, List.flatMap_nil, List.append_nil]
  means := .cons (WrittenItem.means_iff.mpr rfl) derived.means

theorem Spells.exists_derives (spelled : Spells text word) :
    ∃ items, Derives items text (Pattern.ofWord word).operators := by
  induction spelled with
  | nil => exact ⟨[], .nil⟩
  | @escaped char text word _ ih =>
      obtain ⟨items, derived⟩ := ih
      have formed : (WrittenAtom.escaped char).WellFormed := trivial
      exact ⟨_, derived.cons_atom formed⟩
  | @bare char text word plain _ ih =>
      obtain ⟨items, derived⟩ := ih
      have formed : (WrittenAtom.bare char).WellFormed := plain
      exact ⟨_, derived.cons_atom formed⟩

end Reading

namespace OccursAt

variable {char : Char} {word text : List Char} {start : Nat}

theorem nil_iff : OccursAt [] text start ↔ start ≤ text.length := by
  constructor
  · intro occurs
    obtain ⟨before, after, rfl, rfl⟩ := occurs
    simp
  · intro inside
    refine ⟨text.take start, text.drop start, ?_, List.length_take_of_le inside⟩
    rw [List.append_nil, List.take_append_drop]

theorem cons_iff :
    OccursAt (char :: word) text start ↔
      text[start]? = some char ∧ OccursAt word text (start + 1) := by
  constructor
  · intro occurs
    obtain ⟨before, after, rfl, rfl⟩ := occurs
    refine ⟨by simp, before ++ [char], after, by simp, by simp⟩
  · intro occurs
    obtain ⟨first, before, after, rfl, placed⟩ := occurs
    rcases List.eq_nil_or_concat before with rfl | ⟨front, last, rfl⟩
    · cases placed
    · have sameLength : front.length = start := by simpa using placed
      obtain rfl : last = char := by
        simpa [← sameLength] using first
      exact ⟨front, after, by simp, sameLength⟩

theorem length_le (occurs : OccursAt word text start) : start + word.length ≤ text.length := by
  obtain ⟨before, after, rfl, rfl⟩ := occurs
  simp

theorem zero_iff_of_length (sameLength : word.length = text.length) :
    OccursAt word text 0 ↔ text = word := by
  constructor
  · intro occurs
    obtain ⟨before, after, rfl, nothing⟩ := occurs
    obtain rfl := List.length_eq_zero_iff.mp nothing
    have behind : after = [] := by simpa using sameLength
    rw [behind, List.nil_append, List.append_nil]
  · intro same
    exact ⟨[], [], same.trans (List.append_nil word).symm, rfl⟩

end OccursAt

section Matching

variable {word text : List Char} {char : Char} {start stop offset count : Nat}

theorem Operator.takes_literal_iff :
    (Operator.literal char).Takes text.toArray offset count ↔
      count = 1 ∧ text[offset]? = some char := by
  rw [literal, takes_once_iff, acceptsAt, List.getElem?_toArray]
  cases text[offset]? with
  | none => simp
  | some other => simpa [Atom.accepts] using fun _ => eq_comm

/-- The operators of a word share out its occurrences, one character to each of them. -/
theorem assigns_ofWord_iff {counts : List Nat} (inside : start ≤ text.length) :
    Assigns text.toArray (Pattern.ofWord word).operators start counts stop ↔
      counts = List.replicate word.length 1 ∧ stop = start + word.length ∧
        OccursAt word text start := by
  induction word generalizing start counts with
  | nil =>
      rw [Pattern.ofWord, List.map_nil, Assigns.nil_iff, OccursAt.nil_iff]
      simp [inside]
  | cons char word ih =>
      rw [Pattern.ofWord, List.map_cons, Assigns.cons_iff, OccursAt.cons_iff]
      constructor
      · intro parts
        obtain ⟨count, rest, rfl, taken, assigned⟩ := parts
        obtain ⟨rfl, present⟩ := Operator.takes_literal_iff.mp taken
        have within := (List.getElem?_eq_some_iff.mp present).1
        obtain ⟨rfl, rfl, occurs⟩ := (ih within).mp assigned
        refine ⟨rfl, ?_, present, occurs⟩
        rw [List.length_cons]
        omega
      · intro parts
        obtain ⟨rfl, rfl, present, occurs⟩ := parts
        have within := (List.getElem?_eq_some_iff.mp present).1
        refine ⟨1, _, rfl, Operator.takes_literal_iff.mpr ⟨rfl, present⟩, ?_⟩
        refine (ih within).mpr ⟨rfl, ?_, occurs⟩
        rw [List.length_cons]
        omega

end Matching

namespace Pattern

variable {word : List Char} {subject : String} {start : Nat}

theorem completable_ofWord_iff (inside : start ≤ subject.length) :
    Completable (chars subject) (fun _ => True) (ofWord word).operators start ↔
      OccursAt word subject.toList start := by
  rw [← String.length_toList] at inside
  constructor
  · intro completable
    obtain ⟨counts, stop, assigned, -⟩ := completable
    exact ((assigns_ofWord_iff inside).mp assigned).2.2
  · intro occurs
    exact ⟨_, _, (assigns_ofWord_iff inside).mpr ⟨rfl, rfl, occurs⟩, trivial⟩

theorem isMatch_ofWord_iff : (ofWord word).isMatch subject = true ↔ subject.toList = word := by
  rw [isMatch_iff_covers, ← completable_iff_covers]
  constructor
  · intro completable
    obtain ⟨counts, stop, assigned, ending⟩ := completable
    obtain ⟨-, total, occurs⟩ := (assigns_ofWord_iff (Nat.zero_le _)).mp assigned
    apply (OccursAt.zero_iff_of_length _).mp occurs
    rw [String.length_toList]
    omega
  · intro same
    have occurs := (OccursAt.zero_iff_of_length (congrArg List.length same).symm).mpr same
    refine ⟨_, _, (assigns_ofWord_iff (Nat.zero_le _)).mpr ⟨rfl, rfl, occurs⟩, ?_⟩
    rw [Nat.zero_add, ← same, String.length_toList]

theorem find?_ofWord_eq_none_iff :
    (ofWord word).find? subject = none ↔ ∀ start, ¬OccursAt word subject.toList start := by
  rw [find?_eq_none_iff]
  constructor
  · intro stuck start occurs
    have inside : start ≤ subject.length := by
      have reach := occurs.length_le
      rw [String.length_toList] at reach
      omega
    exact stuck start inside ((completable_ofWord_iff inside).mpr occurs)
  · intro absent start inside completable
    exact absent start ((completable_ofWord_iff inside).mp completable)

theorem isLeast_of_find?_ofWord {found : Match}
    (answered : (ofWord word).find? subject = some found) :
    ∃ start, IsLeast { first | OccursAt word subject.toList first } start ∧
      found.span = .between start (start + word.length) := by
  obtain ⟨start, counts, stop, inside, leftmost, greediest, rfl⟩ := find?_eq_some_iff.mp answered
  have inText : start ≤ subject.toList.length := by rwa [String.length_toList]
  obtain ⟨rfl, -, occurs⟩ := (assigns_ofWord_iff inText).mp greediest.assigns
  refine ⟨start, ⟨occurs, ?_⟩, ?_⟩
  · intro first occurs'
    apply Nat.le_of_not_lt
    intro earlier
    apply leftmost first earlier
    exact (completable_ofWord_iff (by omega)).mpr occurs'
  · simp [Match.ofCounts]

/-- However a word is spelled, its pattern has one literal for each character; it matches the
word alone, and a search with it finds the first occurrence of the word in a subject, if
there is one. -/
theorem spelled_word_is_literal (word text : String)
    (spelled : Spells text.toList word.toList) :
    parse text = .ok (ofWord word.toList) ∧
    ∀ subject : String,
      ((ofWord word.toList).isMatch subject = true ↔ subject = word) ∧
      ((ofWord word.toList).find? subject = none ↔
        ∀ start, ¬OccursAt word.toList subject.toList start) ∧
      (∀ found, (ofWord word.toList).find? subject = some found →
        ∃ start, IsLeast { first | OccursAt word.toList subject.toList first } start ∧
          found.span = .between start (start + word.length)) ∧
      ∃ found, (ofWord []).find? subject = some found ∧ found.span = .between 0 0 := by
  refine ⟨ofChars_eq_ok_iff.mpr spelled.exists_derives, fun subject => ⟨?_, ?_, ?_, ?_⟩⟩
  · rw [isMatch_ofWord_iff, String.toList_inj]
  · exact find?_ofWord_eq_none_iff
  · intro found answered
    exact isLeast_of_find?_ofWord answered
  · have everywhere := OccursAt.nil_iff.mpr (Nat.zero_le subject.toList.length)
    cases answered : (ofWord []).find? subject with
    | none => exact absurd everywhere (find?_ofWord_eq_none_iff.mp answered 0)
    | some found =>
        obtain ⟨start, first, placed⟩ := isLeast_of_find?_ofWord answered
        obtain rfl : start = 0 := Nat.le_zero.mp (first.2 everywhere)
        exact ⟨found, rfl, placed⟩

/-- A word of special characters and a needless escape, in a subject where it begins to occur
once before it does. -/
theorem spelled_word_is_literal_overlapping :
    let word := "é.é]"
    let text := "é\\.\\é]"
    Spells text.toList word.toList ∧ parse text = .ok (ofWord word.toList) ∧
      ((ofWord word.toList).isMatch "é.é." = true ↔ "é.é." = word) ∧
      ∃ found, (ofWord word.toList).find? "é.é.é]" = some found ∧
        ∃ start, IsLeast { first | OccursAt word.toList "é.é.é]".toList first } start ∧
          found.span = .between start (start + word.length) := by
  intro word text
  have spelled : Spells ['é', '\\', '.', '\\', 'é', ']'] ['é', '.', 'é', ']'] :=
    .bare (by decide) (.escaped (.escaped (.bare (by decide) .nil)))
  have texts : text.toList = ['é', '\\', '.', '\\', 'é', ']'] := by decide +kernel
  have words : word.toList = ['é', '.', 'é', ']'] := by decide +kernel
  rw [← texts, ← words] at spelled
  obtain ⟨given, literal⟩ := spelled_word_is_literal word text spelled
  have answered : (ofWord word.toList).find? "é.é.é]" = some (.ofCounts 2 [1, 1, 1, 1]) := by
    decide +kernel
  obtain ⟨-, -, first, -⟩ := literal "é.é.é]"
  exact ⟨spelled, given, (literal "é.é.").1, _, answered, first _ answered⟩

end Pattern

end PatternMatcher
