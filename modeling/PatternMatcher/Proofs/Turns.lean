import Mathlib
import PatternMatcher.Proofs.Simulation

/-!
# What a turn does

A turn halts, commits the next operator to a frame, or gives back one repetition.
`Search.Retreats` follows it from frame to frame while it drops those that have nothing
to spare.  `Search.Turned` has a constructor for each thing a turn can come to, and
`turned_turn` says that there is nothing else.
-/

namespace PatternMatcher

/-- The steps spent when a turn is done. -/
def Turn.steps : Turn → Nat
  | .again next => next.progress.steps
  | .halt verdict => verdict.2.steps

namespace Search

/-- The turn of a state comes to giving back with these frames left, these operators to
come and this progress. -/
inductive Retreats (search : Search) (state : SearchState) :
    List Frame → List Operator → Progress → Prop where
  | refused :
      search.exceededLimit? (state.progress.steps + 1) = none →
      state.pending = [] →
      search.mayEndAt state.offset = false →
      Retreats search state state.frames [] state.progress.tick
  | tooFew {operator : Operator} {later : List Operator} {count : Nat} :
      search.exceededLimit? (state.progress.steps + 1) = none →
      state.pending = operator :: later →
      operator.greedyCount search.subject state.offset 0 = count →
      count < operator.min →
      Retreats search state state.frames (operator :: later)
        (((state.progress.tick.recordRun state.nextIndex state.offset count).note
          (.tooFew state.nextIndex operator count state.offset)).clear state.nextIndex)
  | dropped {frame : Frame} {earlier : List Frame} {pending : List Operator}
      {progress : Progress} :
      Retreats search state (frame :: earlier) pending progress →
      frame.count ≤ frame.operator.min →
      Retreats search state earlier (frame.operator :: pending)
        (progress.clear frame.index)

/-- What the turn of a state can come to. -/
inductive Turned (search : Search) (state : SearchState) : Turn → Prop where
  | exceeded {limit : Nat} :
      search.exceededLimit? (state.progress.steps + 1) = some limit →
      Turned search state (.halt (.error (.stepLimitExceeded limit), state.progress.tick))
  | matched :
      search.exceededLimit? (state.progress.steps + 1) = none →
      state.pending = [] →
      search.mayEndAt state.offset = true →
      Turned search state (.halt (.ok (some state.offset), state.progress.tick))
  | committed {operator : Operator} {later : List Operator} {count : Nat} :
      search.exceededLimit? (state.progress.steps + 1) = none →
      state.pending = operator :: later →
      operator.greedyCount search.subject state.offset 0 = count →
      operator.min ≤ count →
      Turned search state (.again
        { frames := .taking state.nextIndex operator state.offset count :: state.frames
          pending := later
          offset := state.offset + count
          progress := state.progress.tick.recordRun state.nextIndex state.offset count })
  | failed {pending : List Operator} {progress : Progress} :
      Retreats search state [] pending progress →
      Turned search state (.halt (.ok none, progress))
  | gaveBack {frame : Frame} {earlier : List Frame} {pending : List Operator}
      {progress : Progress} {span : Span} {history : History} :
      Retreats search state (frame :: earlier) pending progress →
      frame.operator.min < frame.count →
      progress.history.undo frame.index = .ok (span, history) →
      Turned search state (.again
        { frames := { frame with
            count := frame.count - 1, stop := frame.stop - span.length } :: earlier
          pending
          offset := frame.stop - span.length
          progress := ({ progress with history } : Progress).note
            (.gaveBack frame.index (frame.count - 1)) })
  | underflowed {frame : Frame} {earlier : List Frame} {pending : List Operator}
      {progress : Progress} {cause : HistoryError} :
      Retreats search state (frame :: earlier) pending progress →
      frame.operator.min < frame.count →
      progress.history.undo frame.index = .error cause →
      Turned search state (.halt (.error (.inconsistent cause), progress))

variable {search : Search} {state : SearchState}

theorem turned_giveBack {frames : List Frame} {pending : List Operator} {progress : Progress}
    (retreated : search.Retreats state frames pending progress) :
    search.Turned state (giveBack frames pending progress) := by
  induction frames generalizing pending progress with
  | nil => exact .failed retreated
  | cons frame earlier ih =>
      rw [giveBack]
      split
      · next bare => exact ih (.dropped retreated bare)
      · next spare =>
          have spare := Nat.lt_of_not_le spare
          split
          · next cause undone => exact .underflowed retreated spare undone
          · next span history undone => exact .gaveBack retreated spare undone

theorem turned_turn (search : Search) (state : SearchState) :
    search.Turned state (search.turn state) := by
  cases allowed : search.exceededLimit? (state.progress.steps + 1) with
  | some limit =>
      rw [turn_of_exceeded allowed]
      exact .exceeded allowed
  | none =>
      rw [turn_of_within allowed, advance]
      split
      · next ended =>
          split
          · next mayEnd => exact .matched allowed ended mayEnd
          · next mayNotEnd =>
              exact turned_giveBack (.refused allowed ended (Bool.eq_false_iff.mpr mayNotEnd))
      · next operator later more =>
          dsimp only
          split
          · next tooFew => exact turned_giveBack (.tooFew allowed more rfl tooFew)
          · next enough => exact .committed allowed more rfl (Nat.le_of_not_lt enough)

theorem Turned.of_turn_eq {turn : Turn} (taken : search.turn state = turn) :
    search.Turned state turn :=
  taken ▸ search.turned_turn state

theorem Retreats.steps_eq {frames : List Frame} {pending : List Operator}
    {progress : Progress} (retreated : search.Retreats state frames pending progress) :
    progress.steps = state.progress.steps + 1 := by
  induction retreated with
  | refused _ _ _ => rfl
  | tooFew _ _ _ _ => rfl
  | dropped _ _ ih => exact ih

/-- Every turn spends one step. -/
theorem Turned.steps_eq {turn : Turn} (turned : search.Turned state turn) :
    turn.steps = state.progress.steps + 1 := by
  cases turned with
  | exceeded _ => rfl
  | matched _ _ _ => rfl
  | committed _ _ _ _ => rfl
  | failed retreated => exact retreated.steps_eq
  | gaveBack retreated _ _ => exact retreated.steps_eq
  | underflowed retreated _ _ => exact retreated.steps_eq

end Search

end PatternMatcher
