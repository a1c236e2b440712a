import Mathlib
import PatternMatcher.CharSet

/-!
# Sets by their members

A set is determined by its members: neither the order nor the multiplicity of the
characters it was built from is left in it.
-/

namespace PatternMatcher

namespace CharSet

theorem eq_of_mem_iff {first second : CharSet}
    (same : ∀ char, char ∈ first.toList ↔ char ∈ second.toList) : first = second := by
  obtain ⟨members, ascending⟩ := first
  obtain ⟨members', ascending'⟩ := second
  have lists : members.toList = members'.toList := ascending.eq_of_mem_iff ascending' same
  obtain rfl : members = members' := Array.toList_inj.mp lists
  rfl

theorem eq_ofList_iff {set : CharSet} {chars : List Char} :
    set = ofList chars ↔ ∀ char, char ∈ set.toList ↔ char ∈ chars := by
  constructor
  · rintro rfl char
    exact mem_toList_ofList
  · intro members
    exact eq_of_mem_iff fun char => (members char).trans mem_toList_ofList.symm

theorem ofList_eq_iff {chars others : List Char} :
    ofList chars = ofList others ↔ ∀ char, char ∈ chars ↔ char ∈ others := by
  simp only [eq_ofList_iff, mem_toList_ofList]

/-- A set counts each of the characters it was built from once. -/
theorem size_ofList (chars : List Char) : (ofList chars).size = chars.toFinset.card := by
  have distinct : (ofList chars).toList.Nodup := (ofList chars).ascending.imp Char.ne_of_lt
  have members : (ofList chars).toList.toFinset = chars.toFinset := by
    ext char
    simp [mem_toList_ofList]
  rw [← members, List.toFinset_card_of_nodup distinct]
  exact Array.length_toList.symm

@[simp] theorem ofList_reverse (chars : List Char) : ofList chars.reverse = ofList chars :=
  ofList_eq_iff.mpr fun _ => List.mem_reverse

@[simp] theorem ofList_toList (set : CharSet) : ofList set.toList = set :=
  (eq_ofList_iff.mpr fun _ => Iff.rfl).symm

end CharSet

end PatternMatcher
