import Mathlib
import PatternMatcher.Matcher
import PatternMatcher.Proofs.Recording
import PatternMatcher.Proofs.Recursion

/-!
# The machine follows the recursion

`Search.run` keeps its choices in frames and a history, `Search.tryFrom` in the
calls of a recursion.  `follows_tryFrom` says that they agree from every state
in which nothing is recorded for the operators still to come, whatever the
frames below are: the frames only say what happens after a failure.
-/

namespace PatternMatcher

/-- The frame of an operator that has taken `count` characters from an offset on. -/
def Frame.taking (index : Nat) (operator : Operator) (offset count : Nat) : Frame :=
  { index, operator, count, stop := offset + count }

namespace Search

def resume (search : Search) : Turn → Verdict
  | .halt verdict => verdict
  | .again state => search.run state

theorem run_eq_resume (search : Search) (state : SearchState) :
    search.run state = search.resume (search.turn state) := by
  cases taken : search.turn state with
  | halt verdict => exact run_of_halt taken
  | again next => exact run_of_again taken

/-- A state is reached from another by some number of turns. -/
inductive Reaches (search : Search) : SearchState → SearchState → Prop where
  | refl (state : SearchState) : Reaches search state state
  | next {first second last : SearchState} :
      search.turn first = .again second → Reaches search second last →
      Reaches search first last

theorem Reaches.run_eq {search : Search} {first last : SearchState}
    (reached : search.Reaches first last) : search.run first = search.run last := by
  induction reached with
  | refl state => rfl
  | next taken _ ih => exact (run_of_again taken).trans ih

/-- How the verdict of the machine is told by the choice of the recursion, for
operators that begin at an offset.  `front` is what is recorded for the
operators before them; a failure is handed on to the frames. -/
inductive Follows (search : Search) (frames : List Frame) (pending : List Operator)
    (offset : Nat) (front : List (List Span)) : Choice → Verdict → Prop where
  | matched {counts : List Nat} {account : Account} {progress : Progress} :
      progress.account = account →
      progress.history.toLists = front ++ Match.shares offset counts →
      Follows search frames pending offset front
        (.ok (some counts), account) (.ok (some (offset + counts.sum)), progress)
  | failed {account : Account} {progress : Progress} :
      progress.account = account →
      progress.history.toLists = front ++ List.replicate pending.length [] →
      Follows search frames pending offset front
        (.ok none, account) (search.resume (giveBack frames pending progress))
  | stopped {error : SearchError} {account : Account} {progress : Progress} :
      progress.account = account →
      Follows search frames pending offset front
        (.error error, account) (.error error, progress)

section Counts

variable {search : Search} {frames : List Frame} {operator : Operator}
  {later : List Operator} {offset : Nat} {front : List (List Span)}

variable (frames later) in
theorem giveBack_of_lt {count : Nat} {progress : Progress} {back : List (List Span)}
    (spare : operator.min < count + 1)
    (recorded : progress.history.toLists =
      front ++ Span.singles offset (count + 1) :: back) :
    ∃ next : Progress,
      giveBack (.taking front.length operator offset (count + 1) :: frames) later progress =
        .again ⟨.taking front.length operator offset count :: frames, later,
          offset + count, next⟩ ∧
      next.account = progress.account.note (.gaveBack front.length count) ∧
      next.history.toLists = front ++ Span.singles offset count :: back := by
  have latest : progress.history.toLists[front.length]? =
      some (Span.singles offset count ++ [.single (offset + count)]) := by
    rw [recorded, Span.singles_succ_last]
    simp
  obtain ⟨rest, undone, restLists⟩ := History.undo_of_getElem? latest
  refine ⟨({ progress with history := rest } : Progress).note
    (.gaveBack front.length count), ?_, rfl, ?_⟩
  · rw [Frame.taking, giveBack, if_neg (Nat.not_le_of_lt spare)]
    simp only [undone, Span.length_single]
    rfl
  · change rest.toLists = _
    rw [restLists, recorded, History.modify_behind, Span.singles_succ_last,
      List.dropLast_concat]

/-- A frame that has no repetition to spare is dropped, and its operator is
still to come again. -/
theorem Follows.dropped {count : Nat} {account : Account} {progress : Progress}
    (bare : count ≤ operator.min) (told : progress.account = account)
    (recorded : progress.history.toLists =
      front ++ Span.singles offset count :: List.replicate later.length []) :
    Follows search frames (operator :: later) offset front (.ok none, account)
      (search.resume (giveBack (.taking front.length operator offset count :: frames)
        later progress)) := by
  have emptied : (progress.clear front.length).history.toLists =
      front ++ List.replicate (operator :: later).length [] := by
    rw [Progress.clear, History.toLists_truncate, recorded, History.modify_behind]
    rfl
  rw [Frame.taking, giveBack, if_pos bare]
  exact .failed told emptied

/-- Trying counts from the most to the fewest is what the frame of the operator
does when the attempts behind it fail. -/
theorem follows_tryCounts {attempt : Nat → Account → Choice}
    (behind : ∀ (count : Nat) (progress : Progress),
      progress.history.toLists =
        front ++ Span.singles offset count :: List.replicate later.length [] →
      Follows search (.taking front.length operator offset count :: frames)
        later (offset + count) (front ++ [Span.singles offset count])
        (attempt count progress.account)
        (search.run ⟨.taking front.length operator offset count :: frames, later,
          offset + count, progress⟩))
    {count : Nat} {account : Account} {progress : Progress}
    (told : progress.account = account)
    (recorded : progress.history.toLists =
      front ++ Span.singles offset count :: List.replicate later.length []) :
    Follows search frames (operator :: later) offset front
      (tryCounts attempt front.length operator.min count account)
      (search.run ⟨.taking front.length operator offset count :: frames, later,
        offset + count, progress⟩) := by
  have attempt' := behind count progress recorded
  rw [told] at attempt'
  fun_induction tryCounts attempt front.length operator.min count account
    generalizing progress with
  | case1 count account error spent attempted =>
      rw [attempted] at attempt'
      generalize search.run _ = verdict at attempt' ⊢
      cases attempt' with
      | stopped told => exact .stopped told
  | case2 count account counts spent attempted =>
      rw [attempted] at attempt'
      generalize search.run _ = verdict at attempt' ⊢
      cases attempt' with
      | matched told complete =>
          rw [Nat.add_assoc, ← List.sum_cons]
          rw [List.append_assoc] at complete
          exact .matched told complete
  | case3 account spent attempted =>
      rw [attempted] at attempt'
      generalize search.run _ = verdict at attempt' ⊢
      cases attempt' with
      | failed told emptied =>
          rw [List.append_assoc] at emptied
          exact .dropped (Nat.zero_le _) told emptied
  | case4 account spent fewer bare attempted =>
      rw [attempted] at attempt'
      generalize search.run _ = verdict at attempt' ⊢
      cases attempt' with
      | failed told emptied =>
          rw [List.append_assoc] at emptied
          exact .dropped bare told emptied
  | case5 account spent fewer spare attempted ih =>
      rw [attempted] at attempt'
      generalize search.run _ = verdict at attempt' ⊢
      cases attempt' with
      | failed told emptied =>
          rw [List.append_assoc] at emptied
          obtain ⟨next, resumed, nextAccount, nextLists⟩ :=
            giveBack_of_lt frames later (Nat.lt_of_not_le spare) emptied
          rw [resumed]
          have attempt' := behind fewer next nextLists
          rw [nextAccount, told] at attempt'
          exact ih (nextAccount.trans (by rw [told])) nextLists attempt'

end Counts

theorem toLists_recordRun_behind {progress : Progress} {front : List (List Span)}
    {offset count remaining : Nat}
    (recorded : progress.history.toLists = front ++ List.replicate (remaining + 1) []) :
    (progress.tick.recordRun front.length offset count).history.toLists =
      front ++ Span.singles offset count :: List.replicate remaining [] := by
  rw [Progress.recordRun, History.toLists_recordRun]
  change progress.history.toLists.modify _ _ = _
  rw [recorded, List.replicate_succ, History.modify_behind, List.nil_append]

theorem turn_of_exceeded {search : Search} {state : SearchState} {limit : Nat}
    (exceeded : search.exceededLimit? (state.progress.steps + 1) = some limit) :
    search.turn state =
      .halt (.error (.stepLimitExceeded limit), state.progress.tick) := by
  have exceeded' : search.exceededLimit? state.progress.tick.steps = some limit := exceeded
  simp only [turn, exceeded']

theorem turn_of_within {search : Search} {state : SearchState}
    (within : search.exceededLimit? (state.progress.steps + 1) = none) :
    search.turn state =
      search.advance { state with progress := state.progress.tick } := by
  have within' : search.exceededLimit? state.progress.tick.steps = none := within
  simp only [turn, within']

/-- The machine answers as the recursion does, if every operator still to come
has nothing recorded. -/
theorem follows_tryFrom (search : Search) (frames : List Frame) (pending : List Operator)
    (offset : Nat) (progress : Progress) (front : List (List Span))
    (placed : (SearchState.mk frames pending offset progress).nextIndex = front.length)
    (recorded : progress.history.toLists = front ++ List.replicate pending.length []) :
    Follows search frames pending offset front
      (search.tryFrom pending front.length offset progress.account)
      (search.run ⟨frames, pending, offset, progress⟩) := by
  induction pending generalizing frames offset progress front with
  | nil =>
      cases allowed : search.exceededLimit? (progress.account.steps + 1) with
      | some limit =>
          rw [tryFrom_of_exceeded allowed, run_of_halt (turn_of_exceeded allowed)]
          exact .stopped rfl
      | none =>
          rw [run_eq_resume, turn_of_within allowed]
          cases ending : search.mayEndAt offset with
          | true =>
              rw [tryFrom_nil_of_mayEnd allowed ending]
              simp only [advance, ending, if_true]
              exact .matched rfl recorded
          | false =>
              rw [tryFrom_nil_of_not_mayEnd allowed ending]
              simp only [advance, ending, Bool.false_eq_true, if_false]
              exact .failed rfl recorded
  | cons operator later ih =>
      cases allowed : search.exceededLimit? (progress.account.steps + 1) with
      | some limit =>
          rw [tryFrom_of_exceeded allowed, run_of_halt (turn_of_exceeded allowed)]
          exact .stopped rfl
      | none =>
          have taken : (progress.tick.recordRun front.length offset
              (operator.greedyCount search.subject offset 0)).history.toLists =
                front ++ Span.singles offset (operator.greedyCount search.subject offset 0) ::
                  List.replicate later.length [] :=
            toLists_recordRun_behind recorded
          have placed' : (SearchState.mk frames (operator :: later) offset
              progress.tick).nextIndex = front.length := placed
          rw [run_eq_resume, turn_of_within allowed]
          simp only [advance, placed']
          by_cases tooFew : operator.greedyCount search.subject offset 0 < operator.min
          · rw [tryFrom_cons_of_lt allowed tooFew, if_pos tooFew]
            refine .failed rfl ?_
            rw [Progress.clear, History.toLists_truncate]
            change (History.toLists (Progress.recordRun _ _ _ _).history).modify _ _ = _
            rw [taken, History.modify_behind]
            rfl
          · rw [tryFrom_cons_of_le allowed (Nat.le_of_not_lt tooFew), if_neg tooFew]
            apply follows_tryCounts ?_ rfl taken
            intro count progress recorded
            have attempted := ih (.taking front.length operator offset count :: frames)
              (offset + count) progress (front ++ [Span.singles offset count])
              (by simp [SearchState.nextIndex, Frame.taking])
              (by rw [recorded, List.append_assoc]; rfl)
            rwa [List.length_append] at attempted

theorem follows_start (search : Search) {pattern : Pattern} (start : Nat)
    {progress : Progress} (sized : progress.history.size = pattern.size) :
    Follows search [] pattern.operators start []
      (search.tryFrom pattern.operators 0 start progress.account)
      (search.run (.start pattern start progress.reset)) := by
  have emptied : progress.reset.history.toLists =
      [] ++ List.replicate pattern.operators.length [] := by
    rw [Progress.reset, History.toLists_reset, sized]
    rfl
  exact follows_tryFrom search [] pattern.operators start progress.reset [] rfl emptied

theorem found_of_map_eq {α β : Type} {result : Except SearchError (Option α)}
    {change : α → β} {image : β}
    (mapped : result.map (Option.map change) = .ok (some image)) :
    ∃ original, result = .ok (some original) ∧ image = change original := by
  cases result with
  | error error => cases mapped
  | ok answer =>
      cases answer with
      | none => cases mapped
      | some original =>
          cases mapped
          exact ⟨original, rfl, rfl⟩

theorem run_start_fst (search : Search) {pattern : Pattern} (start : Nat)
    {progress : Progress} (sized : progress.history.size = pattern.size) :
    (search.run (.start pattern start progress.reset)).1 =
      (search.tryFrom pattern.operators 0 start progress.account).1.map
        (Option.map (start + ·.sum)) := by
  have followed := follows_start search start sized
  generalize search.tryFrom pattern.operators 0 start progress.account = choice at followed ⊢
  generalize search.run _ = verdict at followed ⊢
  cases followed with
  | matched _ _ => rfl
  | failed _ _ => rfl
  | stopped _ => rfl

end Search

end PatternMatcher
