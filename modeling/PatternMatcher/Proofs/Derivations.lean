import Mathlib
import PatternMatcher.Pattern.Grammar
import PatternMatcher.Proofs.Membership

/-!
# Derivations are unique

What an item means is a function of the item, `WrittenItem.operator`, since a set is
determined by its members.  And what is written tells how it was meant: `Legible` says
for one kind of thing, in front of a text that may follow it, that it can be told from
that text and from all others of its kind; then so can a list of them
(`Legible.list_unique`).  This is used for the members of a class, for the quantifiers
of an item, and for items.
-/

namespace PatternMatcher

section Meaning

variable {items : List WrittenItem} {text : List Char} {operators : List Operator}

/-- The atom that is meant. -/
def WrittenAtom.atom : WrittenAtom → Atom
  | bare char | escaped char => .literal char
  | any => .any
  | oneOf body => .oneOf (.ofList (body.map WrittenMember.char))
  | noneOf body => .noneOf (.ofList (body.map WrittenMember.char))

/-- The operator that is meant. -/
def WrittenItem.operator (item : WrittenItem) : Operator :=
  ⟨item.atom.atom, item.quantifiers.getLast?.getD .once⟩

theorem WrittenAtom.means_iff {written : WrittenAtom} {meant : Atom} :
    written.Means meant ↔ written.atom = meant := by
  constructor
  · intro means
    cases means with
    | bare | any | escaped => rfl
    | oneOf members | noneOf members => rw [atom, CharSet.eq_ofList_iff.mpr members]
  · rintro rfl
    cases written with
    | bare char => exact .bare char
    | any => exact .any
    | escaped char => exact .escaped char
    | oneOf body => exact .oneOf (CharSet.eq_ofList_iff.mp rfl)
    | noneOf body => exact .noneOf (CharSet.eq_ofList_iff.mp rfl)

theorem WrittenItem.means_iff {item : WrittenItem} {meant : Operator} :
    item.Means meant ↔ item.operator = meant := by
  obtain ⟨atom, quantifier⟩ := meant
  constructor
  · intro means
    rw [operator, WrittenAtom.means_iff.mp means.atom, ← means.quantifier_eq]
  · intro same
    obtain ⟨sameAtom, sameQuantifier⟩ := Operator.mk.inj same
    exact ⟨WrittenAtom.means_iff.mpr sameAtom, sameQuantifier.symm⟩

theorem WrittenItem.forall₂_means_iff :
    List.Forall₂ Means items operators ↔ items.map operator = operators := by
  have means_eq : Means = fun item meant => item.operator = meant := by
    funext item meant
    exact propext means_iff
  rw [means_eq, ← List.forall₂_map_left_iff, List.forall₂_eq_eq_eq]

theorem Derives.operators_eq (derived : Derives items text operators) :
    items.map WrittenItem.operator = operators :=
  WrittenItem.forall₂_means_iff.mp derived.means

theorem Derives.of_map_eq (formed : ∀ item ∈ items, item.WellFormed)
    (texts : items.flatMap WrittenItem.text = text)
    (meant : items.map WrittenItem.operator = operators) : Derives items text operators :=
  ⟨formed, texts, WrittenItem.forall₂_means_iff.mpr meant⟩

end Meaning

/-- Well-formed things can be told from what is written: `follows` says what may stand
behind one of them, `ends` what may stand behind the last one of a list. -/
structure Legible {α : Type} (wellFormed : α → Prop) (text : α → List Char)
    (follows ends : List Char → Prop) : Prop where
  unique : ∀ {first second : α} {rest rest' : List Char},
    wellFormed first → wellFormed second → follows rest → follows rest' →
    text first ++ rest = text second ++ rest' → first = second ∧ rest = rest'
  not_ends : ∀ {item : α} {rest : List Char}, wellFormed item → ¬ends (text item ++ rest)
  follows_text : ∀ {item : α} {rest : List Char}, wellFormed item → follows (text item ++ rest)
  follows_of_ends : ∀ {rest : List Char}, ends rest → follows rest

namespace Legible

variable {α : Type} {wellFormed : α → Prop} {text : α → List Char}
  {follows ends : List Char → Prop}

theorem follows_flatMap (legible : Legible wellFormed text follows ends) {items : List α}
    {rest : List Char} (formed : ∀ item ∈ items, wellFormed item) (ending : ends rest) :
    follows (items.flatMap text ++ rest) := by
  cases items with
  | nil => exact legible.follows_of_ends ending
  | cons item items =>
      rw [List.flatMap_cons, List.append_assoc]
      exact legible.follows_text (formed item List.mem_cons_self)

theorem list_unique (legible : Legible wellFormed text follows ends)
    {items others : List α} {rest rest' : List Char}
    (formed : ∀ item ∈ items, wellFormed item)
    (formed' : ∀ other ∈ others, wellFormed other)
    (ending : ends rest) (ending' : ends rest')
    (same : items.flatMap text ++ rest = others.flatMap text ++ rest') :
    items = others ∧ rest = rest' := by
  induction items generalizing others with
  | nil =>
      cases others with
      | nil => exact ⟨rfl, same⟩
      | cons other others =>
          rw [List.flatMap_nil, List.nil_append, List.flatMap_cons, List.append_assoc] at same
          rw [same] at ending
          exact absurd ending (legible.not_ends (formed' other List.mem_cons_self))
  | cons item items ih =>
      cases others with
      | nil =>
          rw [List.flatMap_nil, List.nil_append, List.flatMap_cons, List.append_assoc] at same
          rw [← same] at ending'
          exact absurd ending' (legible.not_ends (formed item List.mem_cons_self))
      | cons other others =>
          obtain ⟨first, later⟩ := List.forall_mem_cons.mp formed
          obtain ⟨first', later'⟩ := List.forall_mem_cons.mp formed'
          rw [List.flatMap_cons, List.flatMap_cons, List.append_assoc, List.append_assoc]
            at same
          obtain ⟨rfl, behind⟩ := legible.unique first first'
            (legible.follows_flatMap later ending) (legible.follows_flatMap later' ending') same
          obtain ⟨rfl, end_eq⟩ := ih later later' behind
          exact ⟨rfl, end_eq⟩

end Legible

theorem WrittenMember.text_unique {first second : WrittenMember} {rest rest' : List Char}
    (formed : first.WellFormed) (formed' : second.WellFormed)
    (same : first.text ++ rest = second.text ++ rest') : first = second ∧ rest = rest' := by
  cases first with
  | bare char =>
      cases second with
      | bare other =>
          obtain ⟨rfl, tails⟩ := List.cons.inj same
          exact ⟨rfl, tails⟩
      | escaped other => exact absurd (List.cons.inj same).1 formed.1
  | escaped char =>
      cases second with
      | bare other => exact absurd (List.cons.inj same).1.symm formed'.1
      | escaped other =>
          obtain ⟨rfl, tails⟩ := List.cons.inj (List.cons.inj same).2
          exact ⟨rfl, tails⟩

/-- Members are told from the bracket that closes their class. -/
theorem WrittenMember.legible :
    Legible WrittenMember.WellFormed WrittenMember.text (fun _ => True)
      (fun rest => rest.head? = some ']') where
  unique := fun formed formed' _ _ same => text_unique formed formed' same
  not_ends := by
    intro member rest formed ending
    cases member with
    | bare char => exact formed.2 (Option.some.inj ending)
    | escaped char => exact absurd (Option.some.inj ending) (by decide)
  follows_text := fun _ => trivial
  follows_of_ends := fun _ => trivial

theorem body_unique {body other : List WrittenMember} {rest rest' : List Char}
    (formed : ∀ member ∈ body, member.WellFormed)
    (formed' : ∀ member ∈ other, member.WellFormed)
    (same : body.flatMap WrittenMember.text ++ [']'] ++ rest =
      other.flatMap WrittenMember.text ++ [']'] ++ rest') :
    body = other ∧ rest = rest' := by
  rw [List.append_assoc, List.append_assoc] at same
  obtain ⟨bodies, tails⟩ := WrittenMember.legible.list_unique formed formed' rfl rfl same
  exact ⟨bodies, (List.cons.inj tails).2⟩

theorem body_ne_caret {body : List WrittenMember} {rest rest' : List Char}
    (uncareted : body.head? ≠ some (.bare '^')) :
    body.flatMap WrittenMember.text ++ [']'] ++ rest ≠ '^' :: rest' := by
  intro same
  cases body with
  | nil => exact absurd (List.cons.inj same).1 (by decide)
  | cons member body =>
      cases member with
      | bare char =>
          obtain ⟨rfl, -⟩ := List.cons.inj same
          exact uncareted rfl
      | escaped char => exact absurd (List.cons.inj same).1 (by decide)

namespace WrittenAtom

/-- The character an atom begins with. -/
def lead : WrittenAtom → Char
  | bare char => char
  | any => '.'
  | escaped _ => '\\'
  | oneOf _ | noneOf _ => '['

theorem head?_text (atom : WrittenAtom) (rest : List Char) :
    (atom.text ++ rest).head? = some atom.lead := by
  cases atom <;> rfl

theorem bare_ne_lead {char : Char} {atom : WrittenAtom} (formed : (bare char).WellFormed)
    (notBare : ∀ other, atom ≠ bare other) : char ≠ atom.lead := by
  have special : atom.lead ∈ ['\\', '[', '.', '?', '*', '+'] := by
    cases atom with
    | bare other => exact absurd rfl (notBare other)
    | any | escaped _ | oneOf _ | noneOf _ => simp [lead]
  intro same
  exact formed (same ▸ special)

/-- Atoms are told from each other by what they begin with, and behind a bracket by
the caret. -/
theorem text_unique {first second : WrittenAtom} {rest rest' : List Char}
    (formed : first.WellFormed) (formed' : second.WellFormed)
    (same : first.text ++ rest = second.text ++ rest') : first = second ∧ rest = rest' := by
  have leads : first.lead = second.lead := by
    have heads := congrArg List.head? same
    rw [head?_text, head?_text] at heads
    exact Option.some.inj heads
  cases first with
  | bare char =>
      cases second with
      | bare other =>
          obtain ⟨rfl, tails⟩ := List.cons.inj same
          exact ⟨rfl, tails⟩
      | any | escaped _ | oneOf _ | noneOf _ =>
          exact absurd leads (bare_ne_lead formed nofun)
  | any =>
      cases second with
      | any => exact ⟨rfl, (List.cons.inj same).2⟩
      | bare other => exact absurd leads.symm (bare_ne_lead formed' nofun)
      | escaped _ | oneOf _ | noneOf _ => exact absurd leads (by simp [lead])
  | escaped char =>
      cases second with
      | escaped other =>
          obtain ⟨rfl, tails⟩ := List.cons.inj (List.cons.inj same).2
          exact ⟨rfl, tails⟩
      | bare other => exact absurd leads.symm (bare_ne_lead formed' nofun)
      | any | oneOf _ | noneOf _ => exact absurd leads (by simp [lead])
  | oneOf body =>
      cases second with
      | oneOf other =>
          obtain ⟨rfl, tails⟩ := body_unique formed.2 formed'.2 (List.cons.inj same).2
          exact ⟨rfl, tails⟩
      | noneOf other => exact absurd (List.cons.inj same).2 (body_ne_caret formed.1)
      | bare other => exact absurd leads.symm (bare_ne_lead formed' nofun)
      | any | escaped _ => exact absurd leads (by simp [lead])
  | noneOf body =>
      cases second with
      | noneOf other =>
          have behind := (List.cons.inj (List.cons.inj same).2).2
          obtain ⟨rfl, tails⟩ := body_unique formed formed' behind
          exact ⟨rfl, tails⟩
      | oneOf other => exact absurd (List.cons.inj same).2.symm (body_ne_caret formed'.1)
      | bare other => exact absurd leads.symm (bare_ne_lead formed' nofun)
      | any | escaped _ => exact absurd leads (by simp [lead])

end WrittenAtom

/-- What is no quantifier may stand behind the last quantifier of an item. -/
def EndsQuantifiers (rest : List Char) : Prop :=
  ∀ char, rest.head? = some char → Quantifier.ofChar? char = none

theorem Quantifier.ofChar?_eq_none_iff {char : Char} :
    ofChar? char = none ↔ char ∉ ['?', '*', '+'] := by
  simp only [List.mem_cons, List.not_mem_nil, or_false, not_or]
  rw [ofChar?.eq_def]
  split
  · simp
  · simp
  · simp
  · next optional zeroOrMore oneOrMore =>
      exact iff_of_true rfl ⟨optional, zeroOrMore, oneOrMore⟩

theorem Quantifier.spelling_of_ofChar? {char : Char} {quantifier : Quantifier}
    (meant : ofChar? char = some quantifier) :
    quantifier ≠ .once ∧ quantifier.spelling = [char] := by
  rw [ofChar?.eq_def] at meant
  split at meant
  · cases meant
    exact ⟨nofun, rfl⟩
  · cases meant
    exact ⟨nofun, rfl⟩
  · cases meant
    exact ⟨nofun, rfl⟩
  · cases meant

theorem Quantifier.exists_char {quantifier : Quantifier} (written : quantifier ≠ .once) :
    ∃ char, quantifier.spelling = [char] ∧ ofChar? char = some quantifier := by
  cases quantifier with
  | once => exact absurd rfl written
  | optional => exact ⟨'?', rfl, rfl⟩
  | zeroOrMore => exact ⟨'*', rfl, rfl⟩
  | oneOrMore => exact ⟨'+', rfl, rfl⟩

theorem Quantifier.legible :
    Legible (· ≠ Quantifier.once) Quantifier.spelling (fun _ => True) EndsQuantifiers where
  unique := by
    intro first second rest rest' written written' _ _ same
    obtain ⟨char, spelled, meant⟩ := exists_char written
    obtain ⟨char', spelled', meant'⟩ := exists_char written'
    rw [spelled, spelled'] at same
    obtain ⟨rfl, tails⟩ := List.cons.inj same
    exact ⟨Option.some.inj (meant.symm.trans meant'), tails⟩
  not_ends := by
    intro quantifier rest written ending
    obtain ⟨char, spelled, meant⟩ := exists_char written
    have none := ending char (by rw [spelled]; rfl)
    rw [meant] at none
    cases none
  follows_text := fun _ => trivial
  follows_of_ends := fun _ => trivial

theorem WrittenAtom.ofChar?_lead {atom : WrittenAtom} (formed : atom.WellFormed) :
    Quantifier.ofChar? atom.lead = none := by
  cases atom with
  | bare char =>
      rw [Quantifier.ofChar?_eq_none_iff]
      intro quantifier
      exact formed (List.mem_append_right ['\\', '[', '.'] quantifier)
  | any | escaped _ | oneOf _ | noneOf _ => rfl

namespace WrittenItem

theorem text_unique {first second : WrittenItem} {rest rest' : List Char}
    (formed : first.WellFormed) (formed' : second.WellFormed)
    (ending : EndsQuantifiers rest) (ending' : EndsQuantifiers rest')
    (same : first.text ++ rest = second.text ++ rest') : first = second ∧ rest = rest' := by
  obtain ⟨atom, quantifiers⟩ := first
  obtain ⟨atom', quantifiers'⟩ := second
  rw [text, text, List.append_assoc, List.append_assoc] at same
  obtain ⟨rfl, behind⟩ := WrittenAtom.text_unique formed.1 formed'.1 same
  obtain ⟨rfl, tails⟩ := Quantifier.legible.list_unique
    (fun quantifier member once => formed.2 (once ▸ member))
    (fun quantifier member once => formed'.2 (once ▸ member)) ending ending' behind
  exact ⟨rfl, tails⟩

/-- Items are told from each other, since no atom begins with a quantifier. -/
theorem legible :
    Legible WrittenItem.WellFormed WrittenItem.text EndsQuantifiers (· = []) where
  unique := text_unique
  not_ends := by
    intro item rest formed ending
    have lead := item.atom.head?_text (item.quantifiers.flatMap Quantifier.spelling ++ rest)
    rw [text, List.append_assoc] at ending
    rw [ending] at lead
    cases lead
  follows_text := by
    intro item rest formed char lead
    rw [text, List.append_assoc, WrittenAtom.head?_text] at lead
    exact Option.some.inj lead ▸ WrittenAtom.ofChar?_lead formed.1
  follows_of_ends := by
    rintro rest rfl char first
    cases first

end WrittenItem

theorem Derives.items_unique {items items' : List WrittenItem} {text : List Char}
    {operators operators' : List Operator} (derived : Derives items text operators)
    (derived' : Derives items' text operators') : items = items' := by
  have same : items.flatMap WrittenItem.text ++ [] = items'.flatMap WrittenItem.text ++ [] := by
    rw [derived.text_eq, derived'.text_eq]
  exact (WrittenItem.legible.list_unique derived.wellFormed derived'.wellFormed rfl rfl same).1

end PatternMatcher
