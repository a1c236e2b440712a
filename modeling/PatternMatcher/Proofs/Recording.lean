import Mathlib
import PatternMatcher.History
import PatternMatcher.Proofs.Shares

/-!
# Histories seen as lists of spans

`History.toLists` is the view through which a search is followed: the effect of
every operation on a history is said by its effect on these lists.
-/

namespace PatternMatcher

namespace History

private theorem map_modify_of_comm {α β : Type} {view : α → β} {change : α → α}
    {change' : β → β} (comm : ∀ item, view (change item) = change' (view item))
    (items : List α) (index : Nat) :
    (items.modify index change).map view = (items.map view).modify index change' := by
  induction items generalizing index with
  | nil => simp
  | cons head tail ih =>
      cases index with
      | zero => simp [comm]
      | succ index => simp [ih]

theorem length_toLists (history : History) : history.toLists.length = history.size := by
  simp [toLists, size]

theorem eq_of_toLists_eq {first second : History}
    (same : first.toLists = second.toLists) : first = second := by
  obtain ⟨entries⟩ := first
  obtain ⟨entries'⟩ := second
  have lists : entries.toList = entries'.toList :=
    List.map_injective_iff.mpr List.reverse_injective same
  rw [Array.toList_inj.mp lists]

theorem spans_eq (history : History) (operator : Nat) :
    history.spans operator = (history.toLists[operator]?).getD [] := by
  rw [spans, stack, toLists, List.getElem?_map, Array.getElem?_toList]
  cases history.entries[operator]? with
  | none => rfl
  | some recorded => rfl

@[simp] theorem toLists_ofSize (operators : Nat) :
    (ofSize operators).toLists = List.replicate operators [] := by
  simp [toLists, ofSize]

theorem toLists_reset (history : History) :
    history.reset.toLists = List.replicate history.size [] := by
  simp [toLists, reset, size, List.map_const']

theorem toLists_record (history : History) (operator : Nat) (span : Span) :
    (history.record operator span).toLists =
      history.toLists.modify operator (· ++ [span]) := by
  simp only [toLists, record, Array.toList_modify]
  exact map_modify_of_comm (fun _ => List.reverse_cons) _ _

theorem toLists_truncate (history : History) (operator count : Nat) :
    (history.truncate operator count).toLists =
      history.toLists.modify operator (List.take count) := by
  simp only [toLists, truncate, Array.toList_modify]
  apply map_modify_of_comm
  intro spans
  rw [List.reverse_drop, List.take_eq_take_iff, List.length_reverse]
  omega

theorem toLists_recordRun (history : History) (operator offset count : Nat) :
    (history.recordRun operator offset count).toLists =
      history.toLists.modify operator (· ++ Span.singles offset count) := by
  induction count generalizing history offset with
  | zero =>
      simp [recordRun, Span.singles_zero]
      exact (List.modify_id operator history.toLists).symm
  | succ count ih =>
      have rest := ih (history.record operator (.single offset)) (offset + 1)
      rw [recordRun, List.range'_succ, List.foldl_cons]
      rw [recordRun] at rest
      rw [rest, toLists_record, List.modify_modify_eq]
      congr 1
      funext spans
      simp [Span.singles_succ]

theorem undo_of_getElem? {history : History} {operator : Nat}
    {earlier : List Span} {latest : Span}
    (recorded : history.toLists[operator]? = some (earlier ++ [latest])) :
    ∃ rest, history.undo operator = .ok (latest, rest) ∧
      rest.toLists = history.toLists.modify operator List.dropLast := by
  have entry : history.entries[operator]? = some (latest :: earlier.reverse) := by
    simp only [toLists, List.getElem?_map, Option.map_eq_some_iff] at recorded
    obtain ⟨spans, present, reversed⟩ := recorded
    rw [Array.getElem?_toList] at present
    rw [present, ← List.reverse_reverse spans, reversed]
    simp
  refine ⟨⟨history.entries.modify operator List.tail⟩, ?_, ?_⟩
  · simp [undo, entry]
  · simp only [toLists, Array.toList_modify]
    exact map_modify_of_comm (fun _ => List.dropLast_reverse.symm) _ _

theorem modify_behind {α : Type} (front : List α) (item : α) (back : List α)
    (change : α → α) :
    (front ++ item :: back).modify front.length change = front ++ change item :: back := by
  induction front with
  | nil => simp
  | cons head tail ih => simp [ih]

end History

end PatternMatcher
