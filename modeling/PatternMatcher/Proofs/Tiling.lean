import Mathlib
import PatternMatcher.Proofs.Unlimited

/-!
# Matches tile their span

The repetitions of a match are the characters of its span, one after another, dealt out to
the operators in the order of the pattern; what the operators consumed are the stretches
this leaves, one for each of them, empty where an operator has no repetition.  All
of it is read off the counts of the match (`Assigns.tiles`).
-/

namespace PatternMatcher

/-- `Span.Consecutive start spans stop` says that the first of some spans begins at `start`,
each other one where its predecessor ended, and that the last ends at `stop`. -/
inductive Span.Consecutive : Nat → List Span → Nat → Prop where
  | nil (offset : Nat) : Consecutive offset [] offset
  | cons {start middle stop : Nat} {later : List Span} :
      start ≤ middle →
      Consecutive middle later stop →
      Consecutive start (.between start middle :: later) stop

/-- The repetitions of a match are the characters from `start` to `stop`, as many for each
operator as it may have and of those it accepts, and so are the spans consumed. -/
structure Match.Tiles (found : Match) (pattern : Pattern) (subject : Array Char)
    (start stop : Nat) : Prop where
  span_eq : found.span = .between start stop
  start_le : start ≤ stop
  stop_le : stop ≤ subject.size
  length_repetitions : found.repetitions.length = pattern.size
  flatten_repetitions : found.repetitions.flatten = Span.singles start (stop - start)
  taken : ∀ (index : Nat) (operator : Operator) (spans : List Span),
    pattern.operators[index]? = some operator → found.repetitions? index = some spans →
    operator.min ≤ spans.length ∧ (∀ max, operator.max? = some max → spans.length ≤ max) ∧
    ∀ span ∈ spans, ∃ offset, span = .single offset ∧ operator.acceptsAt subject offset = true
  length_consumed : found.consumed.length = pattern.size
  consecutive_consumed : Span.Consecutive start found.consumed stop
  map_length_consumed : found.consumed.map Span.length = found.repetitions.map List.length

theorem Span.singles_append (offset first second : Nat) :
    singles offset first ++ singles (offset + first) second =
      singles offset (first + second) := by
  rw [singles, singles, singles, ← List.map_append, List.range'_append_1]

namespace Match

theorem length_shares (offset : Nat) (counts : List Nat) :
    (shares offset counts).length = counts.length := by
  rw [← List.length_map List.length, map_length_shares]

theorem flatten_shares (offset : Nat) (counts : List Nat) :
    (shares offset counts).flatten = Span.singles offset counts.sum := by
  induction counts generalizing offset with
  | nil => rfl
  | cons count later ih =>
      rw [shares, List.flatten_cons, ih, Span.singles_append, List.sum_cons]

theorem getElem?_shares {offset index count : Nat} {counts : List Nat}
    (placed : counts[index]? = some count) :
    (shares offset counts)[index]? =
      some (Span.singles (offset + (counts.take index).sum) count) := by
  induction counts generalizing offset index with
  | nil => cases placed
  | cons first later ih =>
      cases index with
      | zero =>
          cases placed
          rfl
      | succ index =>
          rw [shares, List.getElem?_cons_succ, ih placed, List.take_succ_cons, List.sum_cons,
            Nat.add_assoc]

theorem consecutive_tile_shares (offset : Nat) (counts : List Nat) :
    Span.Consecutive offset (tile offset (shares offset counts)) (offset + counts.sum) := by
  induction counts generalizing offset with
  | nil => exact .nil offset
  | cons count later ih =>
      rw [shares, tile, stopOf_singles, List.sum_cons, ← Nat.add_assoc]
      exact .cons (Nat.le_add_right offset count) (ih (offset + count))

theorem map_length_tile_shares (offset : Nat) (counts : List Nat) :
    (tile offset (shares offset counts)).map Span.length = counts := by
  induction counts generalizing offset with
  | nil => rfl
  | cons count later ih =>
      rw [shares, tile, stopOf_singles, List.map_cons, ih, Span.length_between,
        Nat.add_sub_cancel_left]

theorem consumed_ofCounts (start : Nat) (counts : List Nat) :
    (ofCounts start counts).consumed = tile start (shares start counts) := by
  rw [consumed, ofCounts, Span.offsets?_between]

end Match

variable {pattern : Pattern} {subject : Array Char} {start stop : Nat} {counts : List Nat}

theorem Operator.Takes.of_singles {operator : Operator} {offset count : Nat} {span : Span}
    (taken : operator.Takes subject offset count) (member : span ∈ Span.singles offset count) :
    ∃ position, span = .single position ∧ operator.acceptsAt subject position = true := by
  obtain ⟨position, inRun, rfl⟩ := List.mem_map.mp member
  have bounds := List.mem_range'_1.mp inRun
  exact ⟨position, rfl, taken.accepted position bounds.1 bounds.2⟩

/-- The match of an assignment tiles what the assignment covers. -/
theorem Assigns.tiles (assigned : Assigns subject pattern.operators start counts stop)
    (inside : start ≤ subject.size) :
    (Match.ofCounts start counts).Tiles pattern subject start stop := by
  have total := assigned.stop_eq
  have sameLength := assigned.length_eq
  refine
    { span_eq := by rw [total]; rfl, start_le := assigned.start_le,
      stop_le := assigned.stop_le inside, length_repetitions := ?_,
      flatten_repetitions := ?_, taken := ?_, length_consumed := ?_,
      consecutive_consumed := ?_, map_length_consumed := ?_ }
  · exact (Match.length_shares start counts).trans sameLength
  · rw [total, Nat.add_sub_cancel_left]
    exact Match.flatten_shares start counts
  · intro index operator spans present recorded
    obtain ⟨inOperators, rfl⟩ := List.getElem?_eq_some_iff.mp present
    have inCounts : index < counts.length := sameLength ▸ inOperators
    have taken := assigned.takes_getElem index inOperators inCounts
    have shared : (Match.shares start counts)[index]? = _ :=
      Match.getElem?_shares (List.getElem?_eq_getElem inCounts)
    rw [Match.repetitions?, Match.ofCounts, shared] at recorded
    cases recorded
    rw [Span.length_singles]
    exact ⟨taken.min_le, taken.le_max, fun span member => taken.of_singles member⟩
  · have tiled := congrArg List.length (Match.map_length_tile_shares start counts)
    rw [List.length_map] at tiled
    rw [Match.consumed_ofCounts, tiled]
    exact sameLength
  · rw [Match.consumed_ofCounts, total]
    exact Match.consecutive_tile_shares start counts
  · rw [Match.consumed_ofCounts, Match.map_length_tile_shares]
    exact (Match.map_length_shares start counts).symm

theorem Search.Settles.tiles {search : Search} {first beyond : Nat} {found : Match}
    (settled : search.Settles pattern first beyond (.ok (some found)))
    (inside : beyond ≤ search.subject.size + 1) :
    ∃ start stop, found.Tiles pattern search.subject start stop := by
  cases settled with
  | found _ before _ greediest => exact ⟨_, _, greediest.assigns.tiles (by omega)⟩

namespace Matcher

variable {matcher : Matcher} {text : String} {found : Match}

theorem tiles_of_fullMatch (answered : matcher.fullMatch text = .ok (some found)) :
    ∃ start stop, found.Tiles matcher.pattern (chars text) start stop := by
  have settled := matcher.settles_fullMatch text
  rw [answered] at settled
  exact settled.tiles (Nat.le_add_left 1 _)

theorem tiles_of_find (answered : matcher.find text = .ok (some found)) :
    ∃ start stop, found.Tiles matcher.pattern (chars text) start stop := by
  have settled := matcher.settles_find text
  rw [answered] at settled
  exact settled.tiles (Nat.le_of_eq (congrArg Nat.succ (size_chars text).symm))

end Matcher

end PatternMatcher
