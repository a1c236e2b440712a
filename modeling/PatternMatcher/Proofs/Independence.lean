import Mathlib
import PatternMatcher.Proofs.Recording

/-!
# Operators in a history

A history holds a list of spans for every operator.  `Action.change` says what an action makes of
the list of an operator it concerns, and `getElem?_toLists_after` that it touches no other one.
So actions on different operators do not meet, and what is true of a history is read off single
lists: an undo takes back the latest record, a truncation is as good as undos.
-/

namespace PatternMatcher

namespace History

namespace Action

/-- Whether an action bears on an operator: it names that one or none at all. -/
def concerns (operator : Nat) (action : Action) : Bool :=
  action.operator?.all (· == operator)

/-- What an action makes of the spans of an operator that it concerns. -/
def change : Action → List Span → List Span
  | .record _ span, held => held ++ [span]
  | .undo _, held => held.dropLast
  | .truncate _ kept, held => held.take kept
  | .reset, _ => []
  | .count _, held => held
  | .spans _, held => held

def changeAll : List Action → List Span → List Span
  | [], held => held
  | action :: later, held => changeAll later (action.change held)

/-- What an action answers when its operator has the given spans. -/
def reply : Action → List Span → Except HistoryError Reply
  | .undo operator, held =>
      match held.getLast? with
      | none => .error (.underflow operator)
      | some latest => .ok (.removed latest)
  | .count _, held => .ok (.counted held.length)
  | .spans _, held => .ok (.listed held)
  | .record _ _, _ => .ok .done
  | .truncate _ _, _ => .ok .done
  | .reset, _ => .ok .done

end Action

/-- The history behind an action.  One that fails leaves it as it is. -/
def after (history : History) (action : Action) : History :=
  match history.perform action with
  | .ok (_, next) => next
  | .error _ => history

def afterAll (history : History) : List Action → History
  | [] => history
  | action :: later => (history.after action).afterAll later

def answer (history : History) (action : Action) : Except HistoryError Reply :=
  (history.perform action).map Prod.fst

section OneAction

variable {history : History} {action : Action} {operator : Nat} {held : List Span}

theorem lt_size_iff_held :
    operator < history.size ↔ ∃ held, history.toLists[operator]? = some held := by
  rw [← length_toLists, ← Option.isSome_iff_exists]
  simp

theorem perform_of_missing (named : action.operator? = some operator)
    (missing : history.toLists[operator]? = none) :
    history.perform action = .error (.noSuchOperator operator) := by
  have outside : ¬operator < history.size := by
    rw [lt_size_iff_held, missing]
    simp
  simp [perform, named, outside]

theorem undo_of_nothing_held (holds : history.toLists[operator]? = some []) :
    history.undo operator = .error (.underflow operator) := by
  have empty : history.entries[operator]? = some [] := by
    simpa [toLists] using holds
  simp [undo, empty]

/-- Where an operator exists, its action does to its spans what `change` says, and fails only
with nothing to change. -/
theorem perform_of_held (named : action.operator? = some operator)
    (holds : history.toLists[operator]? = some held) :
    (∃ cause, history.perform action = .error cause ∧ action.reply held = .error cause ∧
      action.change held = held) ∨
    ∃ reply next, history.perform action = .ok (reply, next) ∧ action.reply held = .ok reply ∧
      next.toLists = history.toLists.modify operator action.change := by
  have inside : operator < history.size := lt_size_iff_held.mpr ⟨held, holds⟩
  have known : history.perform action = history.performKnown action := by
    simp [perform, named, inside]
  have read : history.spans operator = held := by simp [spans_eq, holds]
  rw [known]
  cases action with
  | reset => cases named
  | record _ span =>
      cases named
      exact .inr ⟨_, _, rfl, rfl, toLists_record _ _ _⟩
  | truncate _ kept =>
      cases named
      exact .inr ⟨_, _, rfl, rfl, toLists_truncate _ _ _⟩
  | count _ =>
      cases named
      refine .inr ⟨_, _, rfl, ?_, (List.modify_id operator history.toLists).symm⟩
      simp [Action.reply, ← read, spans, History.count]
  | spans _ =>
      cases named
      refine .inr ⟨_, _, rfl, ?_, (List.modify_id operator history.toLists).symm⟩
      simp [Action.reply, read]
  | undo _ =>
      cases named
      rcases List.eq_nil_or_concat held with rfl | ⟨earlier, latest, rfl⟩
      · left
        exact ⟨_, by simp [performKnown, undo_of_nothing_held holds, Except.map], rfl, rfl⟩
      · right
        rw [List.concat_eq_append] at holds
        obtain ⟨rest, undone, shorter⟩ := undo_of_getElem? holds
        refine ⟨.removed latest, rest, ?_, ?_, shorter⟩
        · simp [performKnown, undone, Except.map]
        · simp [Action.reply]

theorem answer_of_held (named : action.operator? = some operator)
    (holds : history.toLists[operator]? = some held) :
    history.answer action = action.reply held := by
  rw [answer]
  rcases perform_of_held named holds with
    ⟨cause, failed, replied, -⟩ | ⟨reply, next, performed, replied, -⟩
  · rw [failed, replied]
    rfl
  · rw [performed, replied]
    rfl

/-- An action that names an operator changes the spans of this one. -/
theorem toLists_after_of_named (named : action.operator? = some operator) :
    (history.after action).toLists = history.toLists.modify operator action.change := by
  cases holds : history.toLists[operator]? with
  | none =>
      rw [after, perform_of_missing named holds]
      exact (List.modify_eq_self (List.getElem?_eq_none_iff.mp holds)).symm
  | some held =>
      rcases perform_of_held named holds with
        ⟨cause, failed, -, unchanged⟩ | ⟨reply, next, performed, -, changed⟩
      · rw [after, failed]
        apply List.ext_getElem?
        intro other
        rw [List.getElem?_modify]
        by_cases same : operator = other
        · subst same
          simp [holds, unchanged]
        · simp [same]
      · rw [after, performed]
        exact changed

/-- Each operator has a list of its own, which is changed by the actions that concern it. -/
theorem getElem?_toLists_after (history : History) (action : Action) (operator : Nat) :
    (history.after action).toLists[operator]? =
      history.toLists[operator]?.map
        (if action.concerns operator then action.change else fun held => held) := by
  cases named : action.operator? with
  | none =>
      cases action <;> cases named
      have cleared : (history.after .reset).toLists = List.replicate history.size [] :=
        toLists_reset history
      rw [cleared, List.getElem?_replicate, ← length_toLists]
      by_cases inside : operator < history.toLists.length
      · simp [inside, Action.concerns, Action.operator?, Action.change]
      · simp [inside]
  | some other =>
      rw [toLists_after_of_named named, List.getElem?_modify]
      by_cases same : other = operator
      · simp [Action.concerns, named, same]
      · simp [Action.concerns, named, same]

end OneAction

section Laws

variable {history : History} {action first second : Action} {operator other : Nat}

theorem eq_of_getElem?_toLists {history' : History}
    (same : ∀ operator : Nat, history.toLists[operator]? = history'.toLists[operator]?) :
    history = history' :=
  eq_of_toLists_eq (List.ext_getElem? same)

@[simp] theorem size_after (history : History) (action : Action) :
    (history.after action).size = history.size := by
  cases named : action.operator? with
  | none =>
      cases action <;> cases named
      exact size_reset history
  | some operator =>
      rw [← length_toLists, toLists_after_of_named named, List.length_modify, length_toLists]

theorem after_of_answer_error {cause : HistoryError}
    (failed : history.answer action = .error cause) : history.after action = history := by
  rw [answer] at failed
  rw [after]
  cases performed : history.perform action with
  | error _ => rfl
  | ok replied =>
      rw [performed] at failed
      cases failed

/-- An answer depends on the spans of the operator that the action names. -/
theorem answer_congr {history' : History} (named : action.operator? = some operator)
    (same : history.toLists[operator]? = history'.toLists[operator]?) :
    history.answer action = history'.answer action := by
  cases holds : history'.toLists[operator]? with
  | none =>
      rw [holds] at same
      rw [answer, answer, perform_of_missing named same, perform_of_missing named holds]
  | some held =>
      rw [holds] at same
      rw [answer_of_held named same, answer_of_held named holds]

theorem getElem?_toLists_after_of_apart (named : action.operator? = some other)
    (apart : other ≠ operator) :
    (history.after action).toLists[operator]? = history.toLists[operator]? := by
  rw [getElem?_toLists_after]
  simp [Action.concerns, named, apart]

theorem spans_after_of_apart (named : action.operator? = some other) (apart : other ≠ operator) :
    (history.after action).spans operator = history.spans operator := by
  rw [spans_eq, spans_eq, getElem?_toLists_after_of_apart named apart]

theorem answer_after_of_apart (firstNamed : first.operator? = some operator)
    (secondNamed : second.operator? = some other) (apart : other ≠ operator) :
    (history.after second).answer first = history.answer first :=
  answer_congr firstNamed (getElem?_toLists_after_of_apart secondNamed apart)

theorem after_comm (firstNamed : first.operator? = some operator)
    (secondNamed : second.operator? = some other) (apart : other ≠ operator) :
    (history.after first).after second = (history.after second).after first := by
  apply eq_of_getElem?_toLists
  intro place
  by_cases here : operator = place
  · subst here
    rw [getElem?_toLists_after_of_apart secondNamed apart, getElem?_toLists_after,
      getElem?_toLists_after _ first, getElem?_toLists_after_of_apart secondNamed apart]
  · rw [getElem?_toLists_after_of_apart firstNamed here, getElem?_toLists_after,
      getElem?_toLists_after _ second, getElem?_toLists_after_of_apart firstNamed here]

theorem answer_undo_after_record (inside : operator < history.size) (span : Span) :
    (history.after (.record operator span)).answer (.undo operator) = .ok (.removed span) := by
  obtain ⟨held, holds⟩ := lt_size_iff_held.mp inside
  have recorded : (history.after (.record operator span)).toLists[operator]? =
      some (held ++ [span]) := by
    rw [getElem?_toLists_after, holds]
    simp [Action.concerns, Action.operator?, Action.change]
  rw [answer_of_held rfl recorded]
  simp [Action.reply]

theorem undo_after_record (history : History) (operator : Nat) (span : Span) :
    (history.after (.record operator span)).after (.undo operator) = history := by
  apply eq_of_toLists_eq
  rw [toLists_after_of_named rfl, toLists_after_of_named rfl, List.modify_modify_eq]
  have restored :
      Action.change (.undo operator) ∘ Action.change (.record operator span) = id := by
    funext held
    simp [Action.change]
  rw [restored]
  exact List.modify_id operator history.toLists

theorem after_reset (history : History) : history.after .reset = ofSize history.size := by
  apply eq_of_toLists_eq
  rw [toLists_ofSize]
  exact toLists_reset history

theorem count_eq (history : History) (operator : Nat) :
    history.count operator = (history.spans operator).length := by
  simp [count, spans]

theorem spans_after_truncate (history : History) (operator kept : Nat) :
    (history.after (.truncate operator kept)).spans operator =
      (history.spans operator).take (min kept (history.count operator)) := by
  rw [count_eq, ← List.take_take, List.take_length, spans_eq, spans_eq, getElem?_toLists_after]
  cases history.toLists[operator]? with
  | none => simp
  | some held => simp [Action.concerns, Action.operator?, Action.change]

end Laws

section Runs

/-- What becomes of the spans of an operator depends on the actions that concern it. -/
theorem getElem?_toLists_afterAll (history : History) (actions : List Action) (operator : Nat) :
    (history.afterAll actions).toLists[operator]? =
      history.toLists[operator]?.map
        fun held => Action.changeAll (actions.filter (·.concerns operator)) held := by
  induction actions generalizing history with
  | nil => simp [afterAll, Action.changeAll]
  | cons action later ih =>
      rw [afterAll, ih, getElem?_toLists_after, Option.map_map]
      by_cases concerned : action.concerns operator = true
      · simp [concerned, Action.changeAll, Function.comp_def]
      · simp [concerned, Function.comp_def]

@[simp] theorem size_afterAll (history : History) (actions : List Action) :
    (history.afterAll actions).size = history.size := by
  induction actions generalizing history with
  | nil => rfl
  | cons action later ih => rw [afterAll, ih, size_after]

theorem changeAll_undos (operator times : Nat) (held : List Span) :
    Action.changeAll (List.replicate times (.undo operator)) held =
      held.take (held.length - times) := by
  induction times generalizing held with
  | zero => simp [Action.changeAll]
  | succ times ih =>
      rw [List.replicate_succ, Action.changeAll, ih, Action.change, List.length_dropLast,
        List.dropLast_eq_take, List.take_take]
      congr 1
      omega

theorem after_truncate_eq_undos (history : History) (operator kept : Nat) :
    history.after (.truncate operator kept) =
      history.afterAll (List.replicate (history.count operator - kept) (.undo operator)) := by
  apply eq_of_getElem?_toLists
  intro place
  rw [getElem?_toLists_after, getElem?_toLists_afterAll, count_eq, spans_eq]
  by_cases here : operator = place
  · subst here
    cases history.toLists[operator]? with
    | none => rfl
    | some held =>
        have fewer : held.take (held.length - (held.length - kept)) = held.take kept := by
          rw [List.take_eq_take_iff]
          omega
        simp [Action.concerns, Action.operator?, Action.change, changeAll_undos, fewer]
  · simp [Action.concerns, Action.operator?, here, Action.changeAll]

end Runs

end History

end PatternMatcher
