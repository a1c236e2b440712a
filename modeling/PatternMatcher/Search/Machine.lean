import PatternMatcher.Search.Progress

/-!
# The backtracking machine

An attempt to match a pattern at one offset is a sequence of turns.  A turn
lets the next operator take as many repetitions as it can and commits to them
in a frame; where the operator cannot have enough, or the pattern ends in the
wrong place, the latest frame with a repetition to spare gives one back.

Frames are a list and not the recursion of a function, so the length of a
pattern is no burden on the stack.  The turns come to an end because each of
them lowers `SearchState.potential`: read the counts of the frames as the
digits of a number, with the highest digit for each operator still to come.
-/

namespace PatternMatcher

/-- An operator committed to a number of repetitions. -/
structure Frame where
  /-- The position of the operator in its pattern. -/
  index : Nat
  operator : Operator
  count : Nat
  /-- The offset behind the last repetition, where the next operator begins. -/
  stop : Nat
  deriving DecidableEq

/-- What stays the same throughout a search. -/
structure Search where
  subject : Array Char
  /-- Whether a match has to reach the end of the subject. -/
  anchored : Bool
  stepLimit : Option Nat
  deriving DecidableEq

/-- An attempt between two turns. -/
structure SearchState where
  /-- The committed operators, latest first. -/
  frames : List Frame
  /-- The operators still to come. -/
  pending : List Operator
  offset : Nat
  progress : Progress
  deriving DecidableEq

/-- The end of an attempt: the offset where the match ends, nothing when there
is no match, or an error, together with the progress made. -/
abbrev Verdict := Except SearchError (Option Nat) × Progress

inductive Turn where
  | again (state : SearchState)
  | halt (verdict : Verdict)

namespace SearchState

def start (pattern : Pattern) (offset : Nat) (progress : Progress) : SearchState :=
  { frames := [], pending := pattern.operators, offset, progress }

/-- The index of the first operator without a frame. -/
def nextIndex (state : SearchState) : Nat :=
  match state.frames with
  | [] => 0
  | latest :: _ => latest.index + 1

/-- The number whose digits are the counts of the frames. -/
def digits (base : Nat) : List Frame → Nat
  | [] => 0
  | frame :: earlier => digits base earlier * base + frame.count

/-- An upper bound on the turns to come, when no count reaches `base - 1`. -/
def potential (base : Nat) (state : SearchState) : Nat :=
  (digits base state.frames + 1) * Nat.pow base state.pending.length

end SearchState

namespace Search

/-- Let the latest frame above its minimum give back one repetition, dropping
the frames on top of it.  Without such a frame the attempt has failed. -/
def giveBack : List Frame → List Operator → Progress → Turn
  | [], _, progress => .halt (.ok none, progress)
  | frame :: earlier, pending, progress =>
      if frame.count ≤ frame.operator.min then
        giveBack earlier (frame.operator :: pending) (progress.clear frame.index)
      else
        match progress.history.undo frame.index with
        | .error cause => .halt (.error (.inconsistent cause), progress)
        | .ok (span, history) =>
            let count := frame.count - 1
            let stop := frame.stop - span.length
            let progress := { progress with history }
            .again
              { frames := { frame with count, stop } :: earlier
                pending
                offset := stop
                progress := progress.note (.gaveBack frame.index count) }

/-- The step limit, if more steps have been spent than it allows. -/
def exceededLimit? (search : Search) (steps : Nat) : Option Nat :=
  search.stepLimit.filter (· < steps)

def mayEndAt (search : Search) (offset : Nat) : Bool :=
  !search.anchored || offset == search.subject.size

/-- Let the next operator take what it can, or end the attempt behind the last
one. -/
def advance (search : Search) (state : SearchState) : Turn :=
  match state.pending with
  | [] =>
      if search.mayEndAt state.offset then .halt (.ok (some state.offset), state.progress)
      else giveBack state.frames [] state.progress
  | operator :: later =>
      let index := state.nextIndex
      let count := operator.greedyCount search.subject state.offset 0
      let progress := state.progress.recordRun index state.offset count
      if count < operator.min then
        giveBack state.frames (operator :: later)
          ((progress.note (.tooFew index operator count state.offset)).clear index)
      else
        let stop := state.offset + count
        .again
          { frames := { index, operator, count, stop } :: state.frames
            pending := later
            offset := stop
            progress }

def turn (search : Search) (state : SearchState) : Turn :=
  let progress := state.progress.tick
  match search.exceededLimit? progress.steps with
  | some limit => .halt (.error (.stepLimitExceeded limit), progress)
  | none => search.advance { state with progress }

private theorem power_succ (base exponent : Nat) :
    Nat.pow base (exponent + 1) = base * Nat.pow base exponent :=
  Nat.mul_comm _ _

open SearchState in
theorem potential_giveBack_le {base : Nat} {frames : List Frame}
    {pending : List Operator} {progress : Progress} {next : SearchState}
    (resumed : giveBack frames pending progress = .again next) :
    next.potential base ≤ digits base frames * Nat.pow base pending.length := by
  induction frames generalizing pending progress with
  | nil => cases resumed
  | cons frame earlier ih =>
      unfold giveBack at resumed
      split at resumed
      · have bound := ih resumed
        rw [List.length_cons, power_succ, ← Nat.mul_assoc] at bound
        exact Nat.le_trans bound (Nat.mul_le_mul_right _ (Nat.le_add_right _ _))
      · next spare =>
          split at resumed
          · cases resumed
          · cases resumed
            have : frame.count - 1 + 1 = frame.count := by omega
            simp only [potential, digits, Nat.add_assoc, this]
            exact Nat.le_refl _

open SearchState in
theorem potential_advance_lt {search : Search} {state next : SearchState}
    (resumed : search.advance state = .again next) :
    next.potential (search.subject.size + 2) <
      state.potential (search.subject.size + 2) := by
  have lowered : ∀ {bound : Nat},
      bound ≤ digits (search.subject.size + 2) state.frames *
        Nat.pow (search.subject.size + 2) state.pending.length →
      bound < state.potential (search.subject.size + 2) := by
    intro bound le
    refine Nat.lt_of_le_of_lt le ?_
    exact Nat.mul_lt_mul_of_pos_right (Nat.lt_succ_self _) (Nat.pow_pos (by omega))
  unfold advance at resumed
  split at resumed
  · next ended =>
      split at resumed
      · cases resumed
      · exact lowered (ended ▸ potential_giveBack_le resumed)
  · next operator later more =>
      dsimp only at resumed
      split at resumed
      · exact lowered (more ▸ potential_giveBack_le resumed)
      · cases resumed
        have reach : operator.greedyCount search.subject state.offset 0 ≤
            0 + (search.subject.size - state.offset) := Operator.greedyCount_le
        simp only [potential, digits, more, List.length_cons, power_succ, ← Nat.mul_assoc]
        refine Nat.mul_lt_mul_of_pos_right ?_ (Nat.pow_pos (by omega))
        rw [Nat.add_mul]
        omega

/-- Every turn lowers the potential. -/
theorem potential_turn_lt {search : Search} {state next : SearchState}
    (resumed : search.turn state = .again next) :
    next.potential (search.subject.size + 2) <
      state.potential (search.subject.size + 2) := by
  unfold turn at resumed
  dsimp only at resumed
  split at resumed
  · cases resumed
  · have lowered := potential_advance_lt resumed
    exact lowered

def run (search : Search) (state : SearchState) : Verdict :=
  match _taken : search.turn state with
  | .halt verdict => verdict
  | .again next => search.run next
termination_by state.potential (search.subject.size + 2)
decreasing_by exact potential_turn_lt _taken

theorem run_of_halt {search : Search} {state : SearchState} {verdict : Verdict}
    (taken : search.turn state = .halt verdict) : search.run state = verdict := by
  rw [run]
  split
  · next halted => rw [taken] at halted; exact (Turn.halt.inj halted).symm
  · next resumed => rw [taken] at resumed; cases resumed

theorem run_of_again {search : Search} {state next : SearchState}
    (taken : search.turn state = .again next) : search.run state = search.run next := by
  rw [run]
  split
  · next halted => rw [taken] at halted; cases halted
  · next resumed => rw [taken] at resumed; rw [Turn.again.inj resumed]

end Search

end PatternMatcher
