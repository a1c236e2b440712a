import Mathlib
import PatternMatcher.Proofs.Descent
import PatternMatcher.Proofs.Turns

/-!
# Frames and history stay coherent

The choices of an attempt are held twice, as counts in its frames and as spans in its
history.  `Fits` says that the two agree; it holds at the head of every turn and again
each time a turn comes to give back, with one frame fewer (`Retreats.fits`).  So
there is always a span to be undone, and an attempt that fails leaves nothing recorded.
-/

namespace PatternMatcher

/-- `Commits subject start frames operators stop lists` says that frames, latest first,
let operators take characters one after another from `start` to `stop`, and that
`lists` are the spans of these characters. -/
inductive Commits (subject : Array Char) (start : Nat) :
    List Frame → List Operator → Nat → List (List Span) → Prop where
  | nil : Commits subject start [] [] start []
  | cons {frames : List Frame} {operators : List Operator} {offset count : Nat}
      {lists : List (List Span)} {operator : Operator} :
      Commits subject start frames operators offset lists →
      operator.Takes subject offset count →
      Commits subject start (.taking frames.length operator offset count :: frames)
        (operators ++ [operator]) (offset + count) (lists ++ [Span.singles offset count])

/-- The frames hold the first operators of a pattern, the other ones are to come from an
offset on, and nothing is recorded but the spans of the frames. -/
def Fits (pattern : Pattern) (subject : Array Char) (start : Nat) (frames : List Frame)
    (pending : List Operator) (offset : Nat) (history : History) : Prop :=
  ∃ operators lists,
    Commits subject start frames operators offset lists ∧
    operators ++ pending = pattern.operators ∧
    history.toLists = lists ++ List.replicate pending.length []

variable {pattern : Pattern} {subject : Array Char} {start offset count : Nat}
  {frame : Frame} {frames earlier : List Frame} {operator : Operator}
  {operators pending later : List Operator} {lists : List (List Span)} {history : History}

namespace Commits

theorem length_lists (commits : Commits subject start frames operators offset lists) :
    lists.length = frames.length := by
  induction commits with
  | nil => rfl
  | cons _ _ ih => rw [List.length_append, List.length_singleton, ih, List.length_cons]

theorem length_operators (commits : Commits subject start frames operators offset lists) :
    operators.length = frames.length := by
  induction commits with
  | nil => rfl
  | cons _ _ ih => rw [List.length_append, List.length_singleton, ih, List.length_cons]

theorem nextIndex_eq {progress : Progress}
    (commits : Commits subject start frames operators offset lists) :
    (SearchState.mk frames pending offset progress).nextIndex = frames.length := by
  cases commits with
  | nil => rfl
  | cons _ _ => rfl

theorem assigns (commits : Commits subject start frames operators offset lists) :
    Assigns subject operators start (frames.reverse.map Frame.count) offset := by
  induction commits with
  | nil => exact .nil start
  | cons _ taken ih =>
      rw [List.reverse_cons, List.map_append]
      exact ih.append (.cons taken (.nil _))

theorem start_le (commits : Commits subject start frames operators offset lists) :
    start ≤ offset :=
  commits.assigns.start_le

theorem offset_le (commits : Commits subject start frames operators offset lists)
    (inside : start ≤ subject.size) : offset ≤ subject.size :=
  commits.assigns.stop_le inside

end Commits

namespace Fits

theorem of_reset (sized : history.size = pattern.size) :
    Fits pattern subject start [] pattern.operators start history.reset := by
  refine ⟨[], [], .nil, rfl, ?_⟩
  rw [History.toLists_reset, sized]
  rfl

theorem toLists_recordRun
    (commits : Commits subject start frames operators offset lists)
    (recorded : history.toLists = lists ++ List.replicate (operator :: later).length []) :
    (history.recordRun frames.length offset count).toLists =
      lists ++ Span.singles offset count :: List.replicate later.length [] := by
  rw [History.toLists_recordRun, recorded, List.length_cons, List.replicate_succ,
    ← commits.length_lists, History.modify_behind, List.nil_append]

theorem commit (fits : Fits pattern subject start frames (operator :: later) offset history)
    (taken : operator.Takes subject offset count) :
    Fits pattern subject start (.taking frames.length operator offset count :: frames)
      later (offset + count) (history.recordRun frames.length offset count) := by
  obtain ⟨operators, lists, commits, split, recorded⟩ := fits
  refine ⟨_, _, .cons commits taken, ?_, ?_⟩
  · rw [List.append_assoc]
    exact split
  · rw [toLists_recordRun commits recorded, List.append_assoc]
    rfl

/-- A greedy run that found too few is forgotten. -/
theorem refuse (fits : Fits pattern subject start frames (operator :: later) offset history) :
    Fits pattern subject start frames (operator :: later) offset
      ((history.recordRun frames.length offset count).truncate frames.length 0) := by
  obtain ⟨operators, lists, commits, split, recorded⟩ := fits
  refine ⟨operators, lists, commits, split, ?_⟩
  rw [History.toLists_truncate, toLists_recordRun commits recorded, ← commits.length_lists,
    History.modify_behind]
  rfl

theorem drop (fits : Fits pattern subject start (frame :: earlier) pending offset history) :
    ∃ offset, Fits pattern subject start earlier (frame.operator :: pending) offset
      (history.truncate frame.index 0) := by
  obtain ⟨operators, lists, commits, split, recorded⟩ := fits
  cases commits with
  | @cons frames operators offset count lists operator commits taken =>
      refine ⟨offset, operators, lists, commits, ?_, ?_⟩
      · rw [← split, List.append_assoc]
        rfl
      · rw [History.toLists_truncate, recorded, List.append_assoc]
        change List.modify _ earlier.length _ = _
        rw [← commits.length_lists]
        exact History.modify_behind _ _ _ _

theorem min_le (fits : Fits pattern subject start (frame :: earlier) pending offset history) :
    frame.operator.min ≤ frame.count := by
  obtain ⟨operators, lists, commits, -, -⟩ := fits
  cases commits with
  | cons _ taken => exact taken.min_le

/-- The latest frame can give back what it has above its minimum. -/
theorem undo (fits : Fits pattern subject start (frame :: earlier) pending offset history)
    (spare : frame.operator.min < frame.count) :
    ∃ span rest, history.undo frame.index = .ok (span, rest) ∧ span.length = 1 ∧
      1 ≤ frame.stop ∧
      Fits pattern subject start
        ({ frame with count := frame.count - 1, stop := frame.stop - 1 } :: earlier)
        pending (frame.stop - 1) rest := by
  obtain ⟨operators, lists, commits, split, recorded⟩ := fits
  cases commits with
  | @cons frames operators offset count lists operator commits taken =>
      change operator.min < count at spare
      obtain ⟨fewer, rfl⟩ : ∃ fewer, count = fewer + 1 := ⟨count - 1, by omega⟩
      rw [List.append_assoc] at recorded
      have latest : history.toLists[earlier.length]? =
          some (Span.singles offset fewer ++ [.single (offset + fewer)]) := by
        rw [recorded, ← commits.length_lists, Span.singles_succ_last]
        simp
      obtain ⟨rest, undone, restLists⟩ := History.undo_of_getElem? latest
      have fewerTaken : operator.Takes subject offset fewer := by
        refine ⟨Nat.le_of_lt_succ spare, ?_, ?_⟩
        · intro max bound
          exact Nat.le_of_succ_le (taken.le_max max bound)
        · intro position after before
          exact taken.accepted position after (Nat.lt_succ_of_lt before)
      have stop : offset + (fewer + 1) - 1 = offset + fewer := rfl
      refine ⟨_, rest, undone, Span.length_single _, Nat.le_add_left 1 (offset + fewer), ?_⟩
      refine ⟨_, _, .cons commits fewerTaken, split, ?_⟩
      rw [restLists, recorded, ← commits.length_lists, List.append_assoc]
      change List.modify (lists ++ _ :: _) _ _ = _
      rw [History.modify_behind, Span.singles_succ_last, List.dropLast_concat]
      rfl

end Fits

def SearchState.Fits (pattern : Pattern) (subject : Array Char) (start : Nat)
    (state : SearchState) : Prop :=
  PatternMatcher.Fits pattern subject start state.frames state.pending state.offset
    state.progress.history

theorem SearchState.Fits.of_pending_eq {state : SearchState}
    (fits : state.Fits pattern subject start) (more : state.pending = pending) :
    PatternMatcher.Fits pattern subject start state.frames pending state.offset
      state.progress.history :=
  more ▸ fits

theorem SearchState.Fits.nextIndex_eq {state : SearchState}
    (fits : state.Fits pattern subject start) : state.nextIndex = state.frames.length := by
  obtain ⟨operators, lists, commits, -, -⟩ := fits
  exact commits.nextIndex_eq

namespace Search

variable {search : Search} {state next first last : SearchState} {progress after : Progress}

theorem Retreats.fits (retreated : search.Retreats state frames pending progress)
    (fits : state.Fits pattern search.subject start) :
    ∃ offset, Fits pattern search.subject start frames pending offset progress.history := by
  induction retreated with
  | refused _ ended _ => exact ⟨state.offset, fits.of_pending_eq ended⟩
  | tooFew _ more _ _ =>
      refine ⟨state.offset, ?_⟩
      rw [fits.nextIndex_eq]
      exact (fits.of_pending_eq more).refuse
  | dropped _ _ ih =>
      obtain ⟨offset, fits'⟩ := ih
      exact fits'.drop

theorem Turned.fits (turned : search.Turned state (.again next))
    (fits : state.Fits pattern search.subject start) :
    next.Fits pattern search.subject start := by
  cases turned with
  | committed _ more counted enough =>
      have taken := Operator.takes_iff.mpr ⟨enough, Nat.le_of_eq counted.symm⟩
      rw [fits.nextIndex_eq]
      exact (fits.of_pending_eq more).commit taken
  | gaveBack retreated spare undone =>
      obtain ⟨offset, fits'⟩ := retreated.fits fits
      obtain ⟨span, rest, undone', one, -, fits''⟩ := fits'.undo spare
      rw [undone] at undone'
      cases undone'
      rw [SearchState.Fits, one]
      exact fits''

theorem Turned.ne_inconsistent {cause : HistoryError}
    (fits : state.Fits pattern search.subject start) :
    ¬search.Turned state (.halt (.error (.inconsistent cause), after)) := by
  intro turned
  cases turned with
  | underflowed retreated spare undone =>
      obtain ⟨offset, fits'⟩ := retreated.fits fits
      obtain ⟨span, rest, undone', -⟩ := fits'.undo spare
      rw [undone] at undone'
      cases undone'

theorem Turned.toLists_of_failed (turned : search.Turned state (.halt (.ok none, after)))
    (fits : state.Fits pattern search.subject start) :
    after.history.toLists = List.replicate pattern.size [] := by
  cases turned with
  | failed retreated =>
      obtain ⟨offset, operators, lists, commits, split, recorded⟩ := retreated.fits fits
      cases commits
      rw [recorded, Pattern.size, ← split]
      rfl

theorem Reaches.fits (reached : search.Reaches first last)
    (fits : first.Fits pattern search.subject start) :
    last.Fits pattern search.subject start := by
  induction reached with
  | refl state => exact fits
  | @next first second last taken _ ih =>
      have turned := Turned.of_turn_eq taken
      exact ih (turned.fits fits)

/-- Every run has a last turn. -/
theorem exists_last (search : Search) (first : SearchState) :
    ∃ last, search.Reaches first last ∧ search.Turned last (.halt (search.run first)) := by
  fun_induction run search first with
  | case1 first verdict taken =>
      have turned := Turned.of_turn_eq taken
      exact ⟨first, .refl first, turned⟩
  | case2 first second taken ih =>
      obtain ⟨last, reached, turned⟩ := ih
      exact ⟨last, .next taken reached, turned⟩

end Search

/-- The offset behind the last of some frames, if the first of them begins at `start`. -/
def Frame.lastStop (start : Nat) (frames : List Frame) : Nat :=
  (frames.getLast?.map Frame.stop).getD start

theorem Commits.lastStop_eq (commits : Commits subject start frames operators offset lists) :
    Frame.lastStop start frames.reverse = offset := by
  cases commits with
  | nil => rfl
  | cons _ _ => rw [Frame.lastStop, List.reverse_cons, List.getLast?_concat]; rfl

/-- The frame of the operator at `index` begins where the frame before it stopped. -/
theorem Commits.placed {index : Nat}
    (commits : Commits subject start frames operators offset lists)
    (placed : frames.reverse[index]? = some frame) :
    frame = .taking index frame.operator
        (Frame.lastStop start (frames.reverse.take index)) frame.count ∧
      operators[index]? = some frame.operator ∧
      frame.operator.Takes subject
        (Frame.lastStop start (frames.reverse.take index)) frame.count ∧
      lists[index]? = some (Span.singles
        (Frame.lastStop start (frames.reverse.take index)) frame.count) := by
  induction commits with
  | nil => cases placed
  | @cons frames operators offset count lists operator commits taken ih =>
      have sameOperators := commits.length_operators
      have sameLists := commits.length_lists
      rw [List.reverse_cons] at placed ⊢
      rcases Nat.lt_or_ge index frames.length with before | behind
      · have inFrames : index < frames.reverse.length := by rwa [List.length_reverse]
        rw [List.getElem?_append_left inFrames] at placed
        rw [List.take_append_of_le_length (Nat.le_of_lt inFrames),
          List.getElem?_append_left (sameOperators ▸ before),
          List.getElem?_append_left (sameLists ▸ before)]
        exact ih placed
      · have same : index = frames.length := by
          have inside := (List.getElem?_eq_some_iff.mp placed).1
          rw [List.length_append, List.length_reverse, List.length_singleton] at inside
          omega
        subst same
        have latest : Frame.taking frames.length operator offset count = frame := by
          have last : (frames.reverse ++ [Frame.taking frames.length operator offset count])[
              frames.length]? = some (.taking frames.length operator offset count) := by
            simp
          rw [last] at placed
          exact Option.some.inj placed
        have begins : Frame.lastStop start
            ((frames.reverse ++ [Frame.taking frames.length operator offset count]).take
              frames.length) = offset := by
          rw [List.take_left' (List.length_reverse), commits.lastStop_eq]
        subst latest
        rw [begins]
        refine ⟨rfl, ?_, taken, ?_⟩
        · rw [← sameOperators, List.getElem?_concat_length]
          rfl
        · rw [← sameLists, List.getElem?_concat_length]
          rfl

/-- What a frame says of the operator at an index that began at an offset, and the
history says too. -/
structure Frame.Coherent (pattern : Pattern) (history : History) (index offset : Nat)
    (frame : Frame) : Prop where
  index_eq : frame.index = index
  operator_eq : pattern.operators[index]? = some frame.operator
  min_le : frame.operator.min ≤ frame.count
  le_max : ∀ max, frame.operator.max? = some max → frame.count ≤ max
  stop_eq : frame.stop = offset + frame.count
  spans_eq : history.spans index = Span.singles offset frame.count

/-- The frames in the order of the pattern. -/
def SearchState.committed (state : SearchState) : List Frame := state.frames.reverse

/-- The first operators have frames that lie one behind the other, from `start` on and
within the first `size` characters; nothing is recorded for the others. -/
structure SearchState.Coherent (pattern : Pattern) (size start : Nat)
    (state : SearchState) : Prop where
  frame : ∀ (index : Nat) (frame : Frame), state.committed[index]? = some frame →
    frame.Coherent pattern state.progress.history index
      (Frame.lastStop start (state.committed.take index))
  length_le : state.committed.length ≤ pattern.size
  nextIndex_eq : state.nextIndex = state.committed.length
  pending_eq : state.pending = pattern.operators.drop state.committed.length
  size_history : state.progress.history.size = pattern.size
  spans_eq_nil : ∀ index, state.committed.length ≤ index →
    state.progress.history.spans index = []
  offset_eq : state.offset = Frame.lastStop start state.committed
  offset_le : state.offset ≤ size

theorem SearchState.Fits.coherent {state : SearchState}
    (fits : state.Fits pattern subject start) (inside : start ≤ subject.size) :
    state.Coherent pattern subject.size start := by
  obtain ⟨operators, lists, commits, split, recorded⟩ := fits
  have sameOperators : operators.length = state.committed.length := by
    rw [commits.length_operators, committed, List.length_reverse]
  have sameLists : lists.length = state.committed.length := by
    rw [commits.length_lists, committed, List.length_reverse]
  have total : operators.length + state.pending.length = pattern.size := by
    rw [Pattern.size, ← split, List.length_append]
  refine
    { frame := ?_, length_le := by omega, nextIndex_eq := ?_, pending_eq := ?_,
      size_history := ?_, spans_eq_nil := ?_, offset_eq := commits.lastStop_eq.symm,
      offset_le := commits.offset_le inside }
  · intro index frame placed
    obtain ⟨taking, operator, taken, spans⟩ := commits.placed placed
    have inOperators := (List.getElem?_eq_some_iff.mp operator).1
    have inLists := (List.getElem?_eq_some_iff.mp spans).1
    refine
      { index_eq := congrArg Frame.index taking, operator_eq := ?_, min_le := taken.min_le,
        le_max := taken.le_max, stop_eq := congrArg Frame.stop taking, spans_eq := ?_ }
    · rw [← split, List.getElem?_append_left inOperators]
      exact operator
    · rw [History.spans_eq, recorded, List.getElem?_append_left inLists, spans]
      rfl
  · rw [committed, List.length_reverse]
    exact commits.nextIndex_eq
  · rw [← split, ← sameOperators, List.drop_left]
  · rw [← History.length_toLists, recorded, List.length_append, List.length_replicate,
      sameLists, ← sameOperators, total]
  · intro index behind
    rw [History.spans_eq, recorded, List.getElem?_append_right (sameLists ▸ behind)]
    cases emptied : (List.replicate state.pending.length ([] : List Span))[
        index - lists.length]? with
    | none => rfl
    | some spans =>
        exact List.eq_of_mem_replicate (List.mem_of_getElem? emptied)

/-- The span is set and ordered, and lies within the first `size` characters. -/
structure Span.Inside (size : Nat) (span : Span) : Prop where
  start_nonneg : 0 ≤ span.start
  start_le : span.start ≤ span.stop
  stop_le : span.stop ≤ size

theorem Span.inside_between {size stop : Nat} (ordered : start ≤ stop) (reach : stop ≤ size) :
    (Span.between start stop).Inside size :=
  ⟨Int.natCast_nonneg start, Int.ofNat_le.mpr ordered, Int.ofNat_le.mpr reach⟩

theorem Span.inside_singles {size : Nat} (reach : offset + count ≤ size) :
    ∀ span ∈ Span.singles offset count, span.Inside size := by
  intro span member
  obtain ⟨position, inRun, rfl⟩ := List.mem_map.mp member
  have bounds := List.mem_range'_1.mp inRun
  exact inside_between (Nat.le_succ position) (by omega)

theorem Commits.inside {size : Nat}
    (commits : Commits subject start frames operators offset lists) (reach : offset ≤ size) :
    ∀ spans ∈ lists, ∀ span ∈ spans, span.Inside size := by
  induction commits with
  | nil =>
      intro spans member
      cases member
  | cons commits taken ih =>
      intro spans member
      rcases List.mem_append.mp member with earlier | latest
      · exact ih (by omega) spans earlier
      · rw [List.mem_singleton.mp latest]
        exact Span.inside_singles reach

/-- Within the turn of a state, every span recorded lies in the subject, also one that is
forgotten again, and a frame never gives back what it does not have. -/
structure Search.TurnsSoundly (search : Search) (state : SearchState) : Prop where
  recorded_inside : ∀ operator later, state.pending = operator :: later →
    ∀ spans ∈ (state.progress.recordRun state.nextIndex state.offset
      (operator.greedyCount search.subject state.offset 0)).history.toLists,
      ∀ span ∈ spans, span.Inside search.subject.size
  min_le : ∀ frame earlier pending progress,
    search.Retreats state (frame :: earlier) pending progress →
    frame.operator.min ≤ frame.count
  undone : ∀ frame earlier pending progress,
    search.Retreats state (frame :: earlier) pending progress →
    frame.operator.min < frame.count →
    ∃ span history, progress.history.undo frame.index = .ok (span, history) ∧
      span.length = 1 ∧ 1 ≤ frame.count ∧ 1 ≤ frame.stop

namespace Search

variable {search : Search} {state : SearchState}

theorem turnsSoundly_of_fits (fits : state.Fits pattern search.subject start)
    (inside : start ≤ search.subject.size) : search.TurnsSoundly state := by
  refine ⟨?_, ?_, ?_⟩
  · intro operator later more spans member span inSpans
    obtain ⟨operators, lists, commits, -, recorded⟩ := fits.of_pending_eq more
    have reach : operator.greedyCount search.subject state.offset 0 ≤
        0 + (search.subject.size - state.offset) := Operator.greedyCount_le
    have within := commits.offset_le inside
    rw [fits.nextIndex_eq, Progress.recordRun, Fits.toLists_recordRun commits recorded] at member
    rcases List.mem_append.mp member with before | behind
    · exact commits.inside within spans before span inSpans
    · rcases List.mem_cons.mp behind with same | empty
      · rw [same] at inSpans
        exact Span.inside_singles (by omega) span inSpans
      · rw [List.eq_of_mem_replicate empty] at inSpans
        cases inSpans
  · intro frame earlier pending progress retreated
    obtain ⟨offset, fits'⟩ := retreated.fits fits
    exact fits'.min_le
  · intro frame earlier pending progress retreated spare
    obtain ⟨offset, fits'⟩ := retreated.fits fits
    obtain ⟨span, rest, undone, one, positive, -⟩ := fits'.undo spare
    exact ⟨span, rest, undone, one, by omega, positive⟩

/-- The frames and the history agree at the head of every turn of an attempt, and no turn
records a span outside the subject or undoes more than was recorded.  So the attempt
never ends with an internal error, a match lies within the subject, and a failure leaves
nothing recorded. -/
theorem attempt_coherent (search : Search) (pattern : Pattern) (start : Nat)
    (progress : Progress) (inside : start ≤ search.subject.size)
    (sized : progress.history.size = pattern.size) :
    (∀ state, search.Reaches (.start pattern start progress.reset) state →
      state.Coherent pattern search.subject.size start ∧ search.TurnsSoundly state) ∧
    (∀ cause after, search.run (.start pattern start progress.reset) ≠
      (.error (.inconsistent cause), after)) ∧
    (∀ after, search.run (.start pattern start progress.reset) = (.ok none, after) →
      after.history = .ofSize pattern.size) ∧
    (∀ stop after, search.run (.start pattern start progress.reset) = (.ok (some stop), after) →
      (Span.between start stop).Inside search.subject.size) := by
  have fits : (SearchState.start pattern start progress.reset).Fits pattern
      search.subject start := Fits.of_reset sized
  obtain ⟨last, reached, turned⟩ := search.exists_last (.start pattern start progress.reset)
  have lastFits := reached.fits fits
  refine ⟨?_, ?_, ?_, ?_⟩
  · intro state reached
    have fits := reached.fits fits
    exact ⟨fits.coherent inside, turnsSoundly_of_fits fits inside⟩
  · intro cause after aborted
    rw [aborted] at turned
    exact Turned.ne_inconsistent lastFits turned
  · intro after failed
    rw [failed] at turned
    apply History.eq_of_toLists_eq
    rw [turned.toLists_of_failed lastFits, History.toLists_ofSize]
  · intro stop after matched
    rw [matched] at turned
    obtain ⟨operators, lists, commits, -⟩ := lastFits
    cases turned with
    | matched _ _ _ => exact Span.inside_between commits.start_le (commits.offset_le inside)

/-- An attempt in which an operator has to give back, in the middle of a search. -/
theorem attempt_coherent_giving_back :
    let search : Search := ⟨#['b', 'a', 'a', 'c'], true, some 9⟩
    let pattern : Pattern :=
      ⟨[⟨.literal 'a', .zeroOrMore⟩, ⟨.literal 'a', .once⟩, ⟨.literal 'c', .once⟩]⟩
    let progress : Progress := ⟨2, .ofSize 3, #[]⟩
    1 ≤ search.subject.size ∧ progress.history.size = pattern.size ∧
      ∀ state, search.Reaches (.start pattern 1 progress.reset) state →
        state.Coherent pattern search.subject.size 1 ∧ search.TurnsSoundly state := by
  intro search pattern progress
  have inside : 1 ≤ search.subject.size := by decide
  have sized : progress.history.size = pattern.size := rfl
  exact ⟨inside, sized, (attempt_coherent search pattern 1 progress inside sized).1⟩

end Search

end PatternMatcher
