import Mathlib
import PatternMatcher.Proofs.Independence

/-!
# The records that survive in a history

Which records are left after some actions can be told without a list of them, from numbers alone.
An operator has a number of spans before each action, its level.  A record raises the level by
one, and is there as long as the level has not come back to where it was: whatever lowers the level
takes the latest records first (`changeAll_eq`).  `survivors` are the records that are there
to the end, in the order in which they were made, and they are what a history reports.
-/

namespace PatternMatcher

namespace History

namespace Action

/-- The level of an operator behind an action that concerns it. -/
def level : Action → Nat → Nat
  | .record _ _, before => before + 1
  | .undo _, before => before - 1
  | .truncate _ kept, before => min kept before
  | .reset, _ => 0
  | .count _, before => before
  | .spans _, before => before

def recorded? : Action → Option Span
  | .record _ span => some span
  | _ => none

/-- An action that leaves an operator without spans, however many there are. -/
def Clears (operator : Nat) (action : Action) : Prop :=
  action = .reset ∨ action = .truncate operator 0

end Action

/-- The lowest level of an operator from the beginning of some actions to their end. -/
def lowest : Nat → List Action → Nat
  | level, [] => level
  | level, action :: later => min level (lowest (action.level level) later)

/-- The spans recorded by actions from a level on, without those above which the level does
not stay. -/
def survivorsFrom : Nat → List Action → List Span
  | _, [] => []
  | level, action :: later =>
      match action.recorded? with
      | none => survivorsFrom (action.level level) later
      | some span =>
          if level < lowest (level + 1) later then span :: survivorsFrom (level + 1) later
          else survivorsFrom (level + 1) later

/-- The records of an operator that survive some actions on a new history. -/
def survivors (operator : Nat) (actions : List Action) : List Span :=
  survivorsFrom 0 (actions.filter (·.concerns operator))

/-- A history reports the given spans of each of its operators, and no others.  An undo fails
where there are none. -/
structure Reports (history : History) (operators : Nat) (left : Nat → List Span) : Prop where
  size_eq : history.size = operators
  toLists_eq : history.toLists = (List.range operators).map left
  listed : ∀ operator < operators,
    history.answer (.spans operator) = .ok (.listed (left operator))
  counted : ∀ operator < operators,
    history.answer (.count operator) = .ok (.counted (left operator).length)
  underflows : ∀ operator < operators,
    history.answer (.undo operator) = .error (.underflow operator) ↔ left operator = []

/-- Each operator of a history has a stack of its own. -/
structure Stacked (history : History) : Prop where
  apart : ∀ {action : Action} {operator other : Nat}, action.operator? = some other →
    other ≠ operator → (history.after action).spans operator = history.spans operator
  comm : ∀ {first second : Action} {operator other : Nat}, first.operator? = some operator →
    second.operator? = some other → other ≠ operator →
    (history.after first).after second = (history.after second).after first ∧
      (history.after second).answer first = history.answer first ∧
      (history.after first).answer second = history.answer second
  undo_record : ∀ operator < history.size, ∀ span : Span,
    (history.after (.record operator span)).answer (.undo operator) = .ok (.removed span) ∧
      (history.after (.record operator span)).after (.undo operator) = history
  truncate_keeps : ∀ operator kept : Nat,
    (history.after (.truncate operator kept)).spans operator =
      (history.spans operator).take (min kept (history.count operator))
  truncate_eq_undos : ∀ operator kept : Nat,
    history.after (.truncate operator kept) =
      history.afterAll (List.replicate (history.count operator - kept) (.undo operator))
  failed : ∀ {action : Action} {cause : HistoryError},
    history.answer action = .error cause → history.after action = history
  reset : history.after .reset = ofSize history.size

section Levels

variable {action : Action} {operator : Nat}

theorem lowest_le (level : Nat) (actions : List Action) : lowest level actions ≤ level := by
  cases actions with
  | nil => exact Nat.le_refl _
  | cons action later => exact Nat.min_le_left _ _

theorem Action.change_of_recorded {span : Span} (recorded : action.recorded? = some span)
    (held : List Span) :
    action.change held = held ++ [span] ∧ action.level held.length = held.length + 1 := by
  cases action <;> cases recorded
  exact ⟨rfl, rfl⟩

/-- An action that records nothing keeps the oldest spans, as many as its level says. -/
theorem Action.change_of_not_recorded (recorded : action.recorded? = none) (held : List Span) :
    action.change held = held.take (action.level held.length) ∧
      action.level held.length ≤ held.length := by
  cases action with
  | record _ _ => cases recorded
  | undo _ => exact ⟨List.dropLast_eq_take, Nat.sub_le _ _⟩
  | truncate _ kept => simp [change, level, List.take_eq_take_iff]
  | reset => simp [change, level]
  | count _ => simp [change, level]
  | spans _ => simp [change, level]

/-- Behind some actions an operator has the oldest of the spans it had before, down to the lowest
level, and what survives of those recorded since. -/
theorem changeAll_eq (actions : List Action) (held : List Span) :
    Action.changeAll actions held =
      held.take (lowest held.length actions) ++ survivorsFrom held.length actions := by
  induction actions generalizing held with
  | nil => simp [Action.changeAll, lowest, survivorsFrom]
  | cons action later ih =>
      rw [Action.changeAll, ih, lowest, survivorsFrom]
      cases recorded : action.recorded? with
      | none =>
          obtain ⟨changed, lower⟩ := Action.change_of_not_recorded recorded held
          have length : (action.change held).length = action.level held.length := by
            rw [changed, List.length_take, Nat.min_eq_left lower]
          have bound := lowest_le (action.level held.length) later
          rw [length, changed, List.take_take, Nat.min_eq_left bound,
            Nat.min_eq_right (Nat.le_trans bound lower)]
      | some span =>
          obtain ⟨changed, higher⟩ := Action.change_of_recorded recorded held
          have bound := lowest_le (held.length + 1) later
          rw [changed, higher, List.length_append, List.length_singleton]
          dsimp only
          by_cases stays : held.length < lowest (held.length + 1) later
          · have top : lowest (held.length + 1) later = (held ++ [span]).length := by
              rw [List.length_append, List.length_singleton]
              omega
            have all : min held.length (lowest (held.length + 1) later) = held.length := by omega
            rw [if_pos stays, all, top, List.take_length, List.take_length]
            simp
          · have below : lowest (held.length + 1) later ≤ held.length := Nat.not_lt.mp stays
            simp [stays, below, List.take_append_of_le_length]

theorem survivors_eq (operator : Nat) (actions : List Action) :
    survivors operator actions = Action.changeAll (actions.filter (·.concerns operator)) [] := by
  simp [changeAll_eq, survivors]

theorem Action.changeAll_append (front back : List Action) (held : List Span) :
    changeAll (front ++ back) held = changeAll back (changeAll front held) := by
  induction front generalizing held with
  | nil => rfl
  | cons action later ih => exact ih (action.change held)

/-- Of the records of an operator only those since it was last cleared can survive. -/
theorem survivors_of_cleared (cleared : action.Clears operator) (before since : List Action) :
    survivors operator (before ++ action :: since) = survivors operator since := by
  have concerned : action.concerns operator = true := by
    rcases cleared with rfl | rfl
    · rfl
    · simp [Action.concerns, Action.operator?]
  have empties (held : List Span) : action.change held = [] := by
    rcases cleared with rfl | rfl
    · rfl
    · simp [Action.change]
  rw [survivors_eq, survivors_eq, List.filter_append, List.filter_cons_of_pos concerned,
    Action.changeAll_append, Action.changeAll, empties]

end Levels

theorem stacked (history : History) : history.Stacked where
  apart := spans_after_of_apart
  comm firstNamed secondNamed apart :=
    ⟨after_comm firstNamed secondNamed apart,
      answer_after_of_apart firstNamed secondNamed apart,
      answer_after_of_apart secondNamed firstNamed (Ne.symm apart)⟩
  undo_record operator inside span :=
    ⟨answer_undo_after_record inside span, undo_after_record history operator span⟩
  truncate_keeps := spans_after_truncate history
  truncate_eq_undos := after_truncate_eq_undos history
  failed := after_of_answer_error
  reset := after_reset history

theorem reports_of_held {history : History} {operators : Nat} {left : Nat → List Span}
    (size_eq : history.size = operators)
    (holds : ∀ operator < operators, history.toLists[operator]? = some (left operator)) :
    history.Reports operators left where
  size_eq := size_eq
  toLists_eq := by
    apply List.ext_getElem?
    intro operator
    by_cases inside : operator < operators
    · rw [holds operator inside]
      simp [inside]
    · have outside : history.toLists.length ≤ operator := by
        rw [length_toLists, size_eq]
        exact Nat.not_lt.mp inside
      simp [inside, outside]
  listed operator inside := answer_of_held rfl (holds operator inside)
  counted operator inside := answer_of_held rfl (holds operator inside)
  underflows operator inside := by
    rw [answer_of_held rfl (holds operator inside), Action.reply, ← List.getLast?_eq_none_iff]
    cases (left operator).getLast? with
    | none => simp
    | some latest => simp

/-- After any actions on a new history, its operators are stacks that do not meet, and what it
reports of each of them is what survives of the records since it was last cleared. -/
theorem afterAll_reports_survivors (operators : Nat) (actions : List Action) :
    ((ofSize operators).afterAll actions).Stacked ∧
    ((ofSize operators).afterAll actions).Reports operators (survivors · actions) ∧
    ∀ (operator : Nat) (before since : List Action) (clearing : Action),
      clearing.Clears operator → actions = before ++ clearing :: since →
      survivors operator actions = survivors operator since := by
  refine ⟨stacked _, ?_, ?_⟩
  · apply reports_of_held
    · rw [size_afterAll, size_ofSize]
    · intro operator inside
      rw [getElem?_toLists_afterAll, toLists_ofSize, List.getElem?_replicate, if_pos inside,
        survivors_eq]
      rfl
  · rintro operator before since clearing cleared rfl
    exact survivors_of_cleared cleared before since

/-- Of the records of the first operator one is undone and one truncated away.  An undo too many and
the records of the other operator, which its clearing takes with it, leave no trace. -/
theorem afterAll_reports_survivors_cleared :
    let span : Nat → Span := .single
    let since : List Action :=
      [.undo 0, .record 0 (span 1), .record 0 (span 2), .undo 0, .record 0 (span 3),
        .truncate 0 1, .record 0 (span 4)]
    let actions : List Action := .record 0 (span 0) :: .record 1 (span 7) :: .reset :: since
    let history : History := (ofSize 2).afterAll actions
    history.toLists = [[span 1, span 4], []] ∧
      history.answer (.undo 1) = .error (.underflow 1) ∧
      history.after (.undo 1) = history ∧
      survivors 0 actions = survivors 0 since := by
  intro span since actions history
  obtain ⟨stacked, reports, sinceCleared⟩ := afterAll_reports_survivors 2 actions
  have listed : (List.range 2).map (survivors · actions) = [[span 1, span 4], []] := by decide
  have underflow : history.answer (.undo 1) = .error (.underflow 1) :=
    (reports.underflows 1 (by decide)).mpr (by decide)
  exact ⟨reports.toLists_eq.trans listed, underflow, stacked.failed underflow,
    sinceCleared 0 [.record 0 (span 0), .record 1 (span 7)] since .reset (.inl rfl) rfl⟩

end History

end PatternMatcher
