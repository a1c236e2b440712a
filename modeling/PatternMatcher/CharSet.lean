/-!
# Sets of characters

A set keeps its members in strictly ascending code-point order, so equal sets
are equal values and membership is decided by bisection.  `contains_iff` and
`mem_toList_ofList` say that neither the order nor the multiplicity of the
characters a set was built from can be seen afterwards.
-/

namespace PatternMatcher

/-- A finite set of characters, listed in strictly ascending order. -/
structure CharSet where
  members : Array Char
  ascending : members.toList.Pairwise (· < ·)
  deriving DecidableEq

namespace CharSet

def empty : CharSet := ⟨#[], .nil⟩

instance : Inhabited CharSet := ⟨empty⟩

def toList (set : CharSet) : List Char := set.members.toList

def size (set : CharSet) : Nat := set.members.size

def isEmpty (set : CharSet) : Bool := set.members.isEmpty

/-- Place a character in an ascending list, once. -/
def insertAscending (char : Char) : List Char → List Char
  | [] => [char]
  | head :: tail =>
      if char < head then char :: head :: tail
      else if char = head then head :: tail
      else head :: insertAscending char tail

theorem mem_insertAscending {char other : Char} {members : List Char} :
    other ∈ insertAscending char members ↔ other = char ∨ other ∈ members := by
  induction members with
  | nil => simp [insertAscending]
  | cons head tail ih =>
      unfold insertAscending
      split
      · simp
      · split
        · next same => simp [same]
        · simp only [List.mem_cons, ih]
          constructor
          · rintro (h | h | h)
            · exact .inr (.inl h)
            · exact .inl h
            · exact .inr (.inr h)
          · rintro (h | h | h)
            · exact .inr (.inl h)
            · exact .inl h
            · exact .inr (.inr h)

theorem pairwise_insertAscending {char : Char} {members : List Char}
    (ascending : members.Pairwise (· < ·)) :
    (insertAscending char members).Pairwise (· < ·) := by
  induction members with
  | nil => simp [insertAscending]
  | cons head tail ih =>
      obtain ⟨above, tailAscending⟩ := List.pairwise_cons.mp ascending
      unfold insertAscending
      split
      · next below =>
          refine List.pairwise_cons.mpr ⟨?_, ascending⟩
          intro other member
          rcases List.mem_cons.mp member with first | later
          · exact first ▸ below
          · exact Char.lt_trans below (above other later)
      · split
        · exact ascending
        · next notBelow different =>
            refine List.pairwise_cons.mpr ⟨?_, ih tailAscending⟩
            intro other member
            rcases mem_insertAscending.mp member with first | later
            · subst first
              exact Char.not_le.mp fun reverse =>
                different (Char.le_antisymm reverse (Char.not_lt.mp notBelow))
            · exact above other later

theorem pairwise_foldr_insertAscending (chars : List Char) :
    (chars.foldr insertAscending []).Pairwise (· < ·) := by
  induction chars with
  | nil => exact .nil
  | cons head tail ih => exact pairwise_insertAscending ih

def ofList (chars : List Char) : CharSet :=
  ⟨(chars.foldr insertAscending []).toArray, pairwise_foldr_insertAscending chars⟩

/-- Whether a character stands among the members at the positions from `low` up
to `high`, found by halving that stretch. -/
def bisect (members : Array Char) (char : Char) (low high : Nat) : Bool :=
  if inside : low < high ∧ high ≤ members.size then
    let middle := (low + high) / 2
    if members[middle] = char then true
    else if members[middle] < char then bisect members char (middle + 1) high
    else bisect members char low middle
  else false
termination_by high - low

def contains (set : CharSet) (char : Char) : Bool :=
  bisect set.members char 0 set.members.size

theorem mem_toList_ofList {char : Char} {chars : List Char} :
    char ∈ (ofList chars).toList ↔ char ∈ chars := by
  have member : char ∈ chars.foldr insertAscending [] ↔ char ∈ chars := by
    induction chars with
    | nil => rfl
    | cons head tail ih => rw [List.foldr_cons, mem_insertAscending, ih, List.mem_cons]
  exact member

theorem bisect_iff {members : Array Char} {char : Char} {low high : Nat}
    (ascending : members.toList.Pairwise (· < ·)) (within : high ≤ members.size) :
    bisect members char low high = true ↔
      ∃ position, ∃ _ : position < members.size,
        low ≤ position ∧ position < high ∧ members[position] = char := by
  have ordered : ∀ first second (_ : first < members.size) (_ : second < members.size),
      first < second → members[first] < members[second] := by
    intro first second _ _ before
    exact List.pairwise_iff_getElem.mp ascending first second
      (by simpa) (by simpa) before
  fun_induction bisect members char low high with
  | case1 low high inside middle found =>
      refine iff_of_true rfl ⟨middle, by omega, by omega, by omega, found⟩
  | case2 low high inside middle missed below ih =>
      refine (ih within).trans ?_
      constructor
      · rintro ⟨position, bound, lower, upper, found⟩
        exact ⟨position, bound, by omega, upper, found⟩
      · rintro ⟨position, bound, lower, upper, found⟩
        refine ⟨position, bound, ?_, upper, found⟩
        rcases Nat.lt_trichotomy position middle with before | same | after
        · have := ordered position middle bound (by omega) before
          rw [found] at this
          exact absurd (Char.lt_trans this below) (Char.lt_irrefl _)
        · subst same
          exact absurd found missed
        · exact after
  | case3 low high inside middle missed notBelow ih =>
      refine (ih (by omega)).trans ?_
      constructor
      · rintro ⟨position, bound, lower, upper, found⟩
        exact ⟨position, bound, lower, by omega, found⟩
      · rintro ⟨position, bound, lower, upper, found⟩
        refine ⟨position, bound, lower, ?_, found⟩
        rcases Nat.lt_trichotomy position middle with before | same | after
        · exact before
        · subst same
          exact absurd found missed
        · have := ordered middle position (by omega) bound after
          rw [found] at this
          exact absurd this notBelow
  | case4 low high outside =>
      refine iff_of_false Bool.false_ne_true ?_
      rintro ⟨position, bound, lower, upper, found⟩
      exact outside ⟨by omega, within⟩

theorem contains_iff {set : CharSet} {char : Char} :
    set.contains char = true ↔ char ∈ set.toList := by
  rw [contains, bisect_iff set.ascending (Nat.le_refl _), toList, Array.mem_toList_iff,
    Array.mem_iff_getElem]
  constructor
  · rintro ⟨position, bound, _, _, found⟩
    exact ⟨position, bound, found⟩
  · rintro ⟨position, bound, found⟩
    exact ⟨position, bound, Nat.zero_le _, bound, found⟩

theorem contains_ofList {chars : List Char} {char : Char} :
    (ofList chars).contains char = true ↔ char ∈ chars :=
  contains_iff.trans mem_toList_ofList

end CharSet

end PatternMatcher
