import Mathlib
import PatternMatcher.Match

/-!
# Matches by counts

The match that gives each operator a number of characters: unit spans laid one
behind the other.  Its counts, what each operator consumed and where the match
stands can be read off it again.
-/

namespace PatternMatcher

/-- The spans of `count` characters from an offset on, one character each. -/
def Span.singles (offset count : Nat) : List Span :=
  (List.range' offset count).map Span.single

namespace Span

@[simp] theorem singles_zero (offset : Nat) : singles offset 0 = [] := rfl

theorem singles_succ (offset count : Nat) :
    singles offset (count + 1) = single offset :: singles (offset + 1) count := by
  simp [singles, List.range'_succ]

theorem singles_succ_last (offset count : Nat) :
    singles offset (count + 1) = singles offset count ++ [single (offset + count)] := by
  simp [singles, List.range'_concat]

@[simp] theorem length_singles (offset count : Nat) :
    (singles offset count).length = count := by
  simp [singles]

end Span

/-- The unit spans of each operator, when operators take the given numbers of
characters one after another. -/
def Match.shares (offset : Nat) : List Nat → List (List Span)
  | [] => []
  | count :: later => Span.singles offset count :: Match.shares (offset + count) later

/-- The match in which operators share a part of the subject by their counts. -/
def Match.ofCounts (start : Nat) (counts : List Nat) : Match :=
  { span := .between start (start + counts.sum), repetitions := Match.shares start counts }

theorem Match.map_length_shares (offset : Nat) (counts : List Nat) :
    (Match.shares offset counts).map List.length = counts := by
  induction counts generalizing offset with
  | nil => rfl
  | cons count later ih => simp [Match.shares, ih]

theorem Match.shares_append (offset : Nat) (first second : List Nat) :
    Match.shares offset (first ++ second) =
      Match.shares offset first ++ Match.shares (offset + first.sum) second := by
  induction first generalizing offset with
  | nil => rfl
  | cons count later ih =>
      rw [List.cons_append, shares, shares, ih, List.sum_cons, Nat.add_assoc, List.cons_append]

namespace Match

def counts (found : Match) : List Nat := found.repetitions.map List.length

@[simp] theorem counts_ofCounts (start : Nat) (counts : List Nat) :
    (ofCounts start counts).counts = counts :=
  map_length_shares start counts

theorem stopOf_singles (offset count : Nat) :
    stopOf offset (Span.singles offset count) = offset + count := by
  cases count with
  | zero => rfl
  | succ count =>
      rw [stopOf, Span.singles_succ_last, List.getLast?_concat]
      rfl

theorem getElem?_tile_shares {offset index : Nat} {counts : List Nat}
    (inside : index < counts.length) :
    (tile offset (shares offset counts))[index]? =
      some (.between (offset + (counts.take index).sum)
        (offset + (counts.take (index + 1)).sum)) := by
  induction counts generalizing offset index with
  | nil => cases inside
  | cons count later ih =>
      rw [shares, tile, stopOf_singles]
      cases index with
      | zero => simp
      | succ index =>
          have rest : (tile (offset + count) (shares (offset + count) later))[index]? = _ :=
            ih (Nat.lt_of_succ_lt_succ inside)
          rw [List.getElem?_cons_succ, rest]
          simp only [List.take_succ_cons, List.sum_cons, Nat.add_assoc]

theorem tile_shares_append (offset : Nat) (first second : List Nat) :
    tile offset (shares offset (first ++ second)) =
      tile offset (shares offset first) ++
        tile (offset + first.sum) (shares (offset + first.sum) second) := by
  induction first generalizing offset with
  | nil => rfl
  | cons count later ih =>
      rw [List.cons_append, shares, tile, stopOf_singles, ih, shares, tile, stopOf_singles,
        List.sum_cons, Nat.add_assoc, List.cons_append]

theorem getElem?_consumed_ofCounts {start index : Nat} {counts : List Nat}
    (inside : index < counts.length) :
    (ofCounts start counts).consumed[index]? =
      some (.between (start + (counts.take index).sum)
        (start + (counts.take (index + 1)).sum)) := by
  have tiled : (tile start (shares start counts))[index]? = _ := getElem?_tile_shares inside
  simpa only [consumed, ofCounts, Span.offsets?_between] using tiled

end Match

/-- A span moved by a number of characters, to the left if it is negative. -/
def Span.shift (distance : Int) (span : Span) : Span :=
  { start := span.start + distance, stop := span.stop + distance }

def Match.shift (distance : Int) (found : Match) : Match :=
  { span := found.span.shift distance
    repetitions := found.repetitions.map (List.map (Span.shift distance)) }

section Shift

variable {offset target : Nat} {distance : Int}

theorem Span.shift_between {length : Nat} (moved : (offset : Int) + distance = target) :
    (between offset (offset + length)).shift distance = between target (target + length) := by
  simp only [shift, between, Span.mk.injEq]
  omega

theorem Span.shift_singles {count : Nat} (moved : (offset : Int) + distance = target) :
    (singles offset count).map (shift distance) = singles target count := by
  induction count generalizing offset target with
  | zero => rfl
  | succ count ih =>
      have first : (single offset).shift distance = single target := shift_between moved
      have rest : (singles (offset + 1) count).map (shift distance) =
          singles (target + 1) count := ih (by omega)
      rw [singles_succ, List.map_cons, first, rest, ← singles_succ]

theorem Match.shift_shares {counts : List Nat} (moved : (offset : Int) + distance = target) :
    (shares offset counts).map (List.map (Span.shift distance)) = shares target counts := by
  induction counts generalizing offset target with
  | nil => rfl
  | cons count later ih =>
      have rest : (shares (offset + count) later).map (List.map (Span.shift distance)) =
          shares (target + count) later := ih (by omega)
      rw [shares, List.map_cons, Span.shift_singles moved, rest, ← shares]

theorem Match.shift_ofCounts {counts : List Nat} (moved : (offset : Int) + distance = target) :
    (ofCounts offset counts).shift distance = ofCounts target counts := by
  rw [shift, ofCounts, ofCounts, Match.mk.injEq]
  exact ⟨Span.shift_between moved, shift_shares moved⟩

end Shift

end PatternMatcher
