import Mathlib
import PatternMatcher.Proofs.Answers
import PatternMatcher.Proofs.Coherence
import PatternMatcher.Proofs.VisitOrder

/-!
# A step for each partial assignment

At the head of a turn the frames hold a partial assignment.  The next turn has the next
one in the order of `Precedes` (`Turned.followedBy`): what is dropped while a turn looks
for something to give back has been passed in full (`Retreats.passed`).  So a run visits
every partial assignment from its first to its last one, each of them once, and has spent
as many steps.
-/

namespace PatternMatcher

/-- The counts of some frames in the order of the pattern, where they are latest first. -/
def Frame.counts (frames : List Frame) : List Nat :=
  (frames.map Frame.count).reverse

def SearchState.counts (state : SearchState) : List Nat := Frame.counts state.frames

namespace Search

/-- The counts that the turns of an attempt begin with. -/
def visits (search : Search) (state : SearchState) : List (List Nat) :=
  state.counts ::
    match _taken : search.turn state with
    | .halt _ => []
    | .again next => search.visits next
termination_by state.potential (search.subject.size + 2)
decreasing_by exact potential_turn_lt _taken

variable {search : Search} {state first second : SearchState}

theorem visits_of_halt {verdict : Verdict} (taken : search.turn first = .halt verdict) :
    search.visits first = [first.counts] := by
  rw [visits]
  split
  · rfl
  · next resumed => simp [taken] at resumed

theorem visits_of_again (taken : search.turn first = .again second) :
    search.visits first = first.counts :: search.visits second := by
  rw [visits]
  split
  · next halted => simp [taken] at halted
  · next resumed =>
      rw [taken] at resumed
      cases resumed
      rfl

theorem steps_run (search : Search) (first : SearchState) :
    (search.run first).2.steps = first.progress.steps + (search.visits first).length := by
  fun_induction run search first with
  | case1 first verdict taken =>
      have spent := (Turned.of_turn_eq taken).steps_eq
      rw [visits_of_halt taken]
      exact spent
  | case2 first second taken ih =>
      have spent := (Turned.of_turn_eq taken).steps_eq
      rw [Turn.steps] at spent
      rw [ih, spent, visits_of_again taken, List.length_cons]
      omega

end Search

section Frames

variable {pattern : Pattern} {subject : Array Char} {start offset : Nat} {frame : Frame}
  {frames earlier : List Frame} {operators pending : List Operator}
  {lists : List (List Span)} {history : History} {counts : List Nat}

@[simp] theorem Frame.counts_cons (frame : Frame) (earlier : List Frame) :
    Frame.counts (frame :: earlier) = Frame.counts earlier ++ [frame.count] := by
  simp [Frame.counts]

theorem Commits.assigns_counts
    (commits : Commits subject start frames operators offset lists) :
    Assigns subject operators start (Frame.counts frames) offset := by
  simpa [Frame.counts] using commits.assigns

theorem Commits.map_length_lists
    (commits : Commits subject start frames operators offset lists) :
    lists.map List.length = Frame.counts frames := by
  induction commits with
  | nil => rfl
  | cons _ _ ih => simp [ih, Frame.taking, Span.length_singles]

theorem Fits.partialAssignment
    (fits : Fits pattern subject start frames pending offset history) :
    pattern.PartialAssignment subject start (Frame.counts frames) := by
  obtain ⟨operators, lists, commits, split, -⟩ := fits
  exact .of_assigns commits.assigns_counts split

/-- The counts behind those of all frames but the latest are no fewer than the minimum of
its operator. -/
theorem Fits.min_le_of_partialAssignment {count : Nat} {rest : List Nat}
    (fits : Fits pattern subject start (frame :: earlier) pending offset history)
    (assignment : pattern.PartialAssignment subject start
      (Frame.counts earlier ++ count :: rest)) :
    frame.operator.min ≤ count := by
  obtain ⟨operators, lists, commits, split, -⟩ := fits
  cases commits with
  | cons commits taken =>
      rw [List.append_assoc] at split
      exact (assignment.takes_next commits.assigns_counts split).min_le

end Frames

namespace Search

variable {pattern : Pattern} {search : Search} {start : Nat}
  {state next first : SearchState} {frames : List Frame} {pending : List Operator}
  {progress after : Progress}

/-- While a turn retreats, it has passed what goes on from the counts of the frames left. -/
theorem Retreats.passed (retreated : search.Retreats state frames pending progress)
    (fits : state.Fits pattern search.subject start) :
    pattern.Passed search.subject start (Frame.counts frames) state.counts := by
  induction retreated with
  | refused _ ended _ =>
      apply Pattern.Passed.refl
      intro count rest assignment
      obtain ⟨operators, lists, commits, split, -⟩ := fits.of_pending_eq ended
      have longer := assignment.length_le
      rw [List.length_append, commits.assigns_counts.length_eq] at longer
      simp [Pattern.size, ← split] at longer
  | tooFew _ more counted few =>
      apply Pattern.Passed.refl
      intro count rest assignment
      obtain ⟨operators, lists, commits, split, -⟩ := fits.of_pending_eq more
      have taken := assignment.takes_next commits.assigns_counts split
      have bounds := Operator.takes_iff.mp taken
      omega
  | dropped retreated bare ih =>
      rw [Frame.counts_cons] at ih
      apply ih.dropLast
      intro more rest assignment
      obtain ⟨offset, fits'⟩ := retreated.fits fits
      exact Nat.le_trans bare (fits'.min_le_of_partialAssignment assignment)

theorem Turned.followedBy (turned : search.Turned state (.again next))
    (fits : state.Fits pattern search.subject start) :
    pattern.FollowedBy search.subject start state.counts next.counts := by
  have assignment : pattern.PartialAssignment search.subject start next.counts :=
    (turned.fits fits).partialAssignment
  cases turned with
  | committed _ more counted _ =>
      simp only [SearchState.counts, Frame.counts_cons] at assignment ⊢
      apply Pattern.FollowedBy.of_largest assignment
      intro larger rest given
      obtain ⟨operators, lists, commits, split, -⟩ := fits.of_pending_eq more
      have taken := given.takes_next commits.assigns_counts split
      rw [← counted]
      exact (Operator.takes_iff.mp taken).2
  | @gaveBack frame earlier _ _ _ _ retreated spare _ =>
      have passed := retreated.passed fits
      have one : frame.count = frame.count - 1 + 1 := by omega
      rw [Frame.counts_cons, one] at passed
      simp only [SearchState.counts, Frame.counts_cons] at assignment ⊢
      exact passed.followedBy assignment

/-- An attempt fails at the last partial assignment. -/
theorem Turned.noLater_of_failed (turned : search.Turned state (.halt (.ok none, after)))
    (fits : state.Fits pattern search.subject start) {others : List Nat}
    (assignment : pattern.PartialAssignment search.subject start others) :
    NoLater others state.counts := by
  cases turned with
  | failed retreated =>
      apply noLater_of_not_precedes
      exact (retreated.passed fits).none_behind others assignment List.nil_prefix

/-- A run visits the partial assignments from its first one to its last one. -/
theorem exists_last_visit (fits : first.Fits pattern search.subject start) :
    ∃ last, search.Reaches first last ∧ search.Turned last (.halt (search.run first)) ∧
      ∀ counts, counts ∈ search.visits first ↔
        pattern.PartialAssignment search.subject start counts ∧
          NoLater first.counts counts ∧ NoLater counts last.counts := by
  fun_induction run search first with
  | case1 first verdict taken =>
      have turned := Turned.of_turn_eq taken
      refine ⟨first, .refl first, turned, ?_⟩
      intro counts
      rw [visits_of_halt taken, List.mem_singleton]
      constructor
      · rintro rfl
        exact ⟨fits.partialAssignment, .refl _, .refl _⟩
      · rintro ⟨-, behind, before⟩
        exact before.antisymm behind
  | case2 first second taken ih =>
      have turned := Turned.of_turn_eq taken
      have followed := turned.followedBy fits
      have ahead : NoLater first.counts second.counts := noLater_iff.mpr (.inr followed.before)
      obtain ⟨last, reached, turned', members⟩ := ih (turned.fits fits)
      have within : NoLater second.counts last.counts := by
        have member : second.counts ∈ search.visits second := by
          rw [visits]
          exact List.mem_cons_self
        exact ((members _).mp member).2.2
      refine ⟨last, .next taken reached, turned', ?_⟩
      intro counts
      rw [visits_of_again taken, List.mem_cons, members]
      constructor
      · rintro (rfl | ⟨assignment, behind, before⟩)
        · exact ⟨fits.partialAssignment, .refl _, ahead.trans within⟩
        · exact ⟨assignment, ahead.trans behind, before⟩
      · rintro ⟨assignment, behind, before⟩
        rcases noLater_iff.mp behind with same | behind
        · exact .inl same.symm
        · exact .inr ⟨assignment, followed.none_between counts assignment behind, before⟩

example :
    let pattern : Pattern := ⟨[⟨.literal 'a', .zeroOrMore⟩, ⟨.any, .optional⟩]⟩
    (Search.mk #['a', 'b', 'b'] true none).visits (.start pattern 0 (.initial pattern)) =
      [[], [1], [1, 1], [1, 0], [0], [0, 1], [0, 0]] := by
  decide +kernel

theorem pairwise_visits (fits : first.Fits pattern search.subject start) :
    (search.visits first).Pairwise Precedes := by
  fun_induction run search first with
  | case1 first verdict taken =>
      rw [visits_of_halt taken]
      exact List.pairwise_singleton _ _
  | case2 first second taken ih =>
      have turned := Turned.of_turn_eq taken
      have fits' := turned.fits fits
      obtain ⟨last, -, -, members⟩ := exists_last_visit fits'
      rw [visits_of_again taken]
      refine List.pairwise_cons.mpr ⟨?_, ih fits'⟩
      intro counts member
      have before := (turned.followedBy fits).before
      exact before.trans_noLater ((members counts).mp member).2.1

end Search

/-- The partial assignments that an attempt has to try for its answer: all of them to find
no match, and those no later than the counts of the match to find it. -/
def Pattern.tried (pattern : Pattern) (subject : Array Char) (start : Nat) :
    Option Match → Set (List Nat)
  | none => { counts | pattern.PartialAssignment subject start counts }
  | some found =>
      { counts | pattern.PartialAssignment subject start counts ∧ NoLater counts found.counts }

/-- An attempt gives its answer after a visit to everything it has to try, each once and
each for one step. -/
structure Search.Explores (search : Search) (pattern : Pattern) (start : Nat)
    (before : Progress) (answer : Option Match) (after : Progress) : Prop where
  attempt_eq : search.attempt pattern start before = (.ok answer, after)
  nodup : (search.visits (.start pattern start before.reset)).Nodup
  mem_iff : ∀ counts, counts ∈ search.visits (.start pattern start before.reset) ↔
    counts ∈ pattern.tried search.subject start answer
  steps_eq : after.steps = before.steps + (pattern.tried search.subject start answer).ncard

/-- The offsets are explored one after another, up to the first one with a match. -/
inductive Search.ExploresEach (search : Search) (pattern : Pattern) :
    List Nat → Progress → Option Match → Progress → Prop where
  | nil {progress : Progress} : ExploresEach search pattern [] progress none progress
  | found {start : Nat} {later : List Nat} {before after : Progress} {found : Match} :
      search.Explores pattern start before (some found) after →
      ExploresEach search pattern (start :: later) before (some found) after
  | missed {start : Nat} {later : List Nat} {before between after : Progress}
      {answer : Option Match} :
      search.Explores pattern start before none between →
      ExploresEach search pattern later between answer after →
      ExploresEach search pattern (start :: later) before answer after

theorem SearchState.Fits.map_length_toLists {pattern : Pattern} {subject : Array Char}
    {start : Nat} {state : SearchState} (fits : state.Fits pattern subject start)
    (ended : state.pending = []) :
    state.progress.history.toLists.map List.length = state.counts := by
  obtain ⟨operators, lists, commits, -, recorded⟩ := fits.of_pending_eq ended
  simpa [recorded, SearchState.counts] using commits.map_length_lists

namespace Search

variable {search : Search} {pattern : Pattern} {start : Nat} {starts : List Nat}
  {before after : Progress} {answer : Option Match}

theorem Explores.of_pairwise
    (attempted : search.attempt pattern start before = (.ok answer, after))
    (ordered : (search.visits (.start pattern start before.reset)).Pairwise Precedes)
    (members : ∀ counts, counts ∈ search.visits (.start pattern start before.reset) ↔
      counts ∈ pattern.tried search.subject start answer)
    (spent : after.steps =
      before.steps + (search.visits (.start pattern start before.reset)).length) :
    search.Explores pattern start before answer after := by
  have once : (search.visits (.start pattern start before.reset)).Nodup := by
    apply ordered.imp
    rintro counts _ before rfl
    exact Precedes.irrefl counts before
  have visited : pattern.tried search.subject start answer =
      (search.visits (.start pattern start before.reset)).toFinset := by
    ext counts
    simp [members]
  refine ⟨attempted, once, members, ?_⟩
  rw [visited, Set.ncard_coe_finset, List.toFinset_card_of_nodup once]
  exact spent

theorem exists_explores (start : Nat) (unlimited : search.stepLimit = none)
    (sized : before.history.size = pattern.size) :
    ∃ answer after, search.Explores pattern start before answer after ∧
      (answer = none → after.history.size = pattern.size) := by
  have fits : (SearchState.start pattern start before.reset).Fits pattern
      search.subject start := Fits.of_reset sized
  have ordered := pairwise_visits fits
  have spent := search.steps_run (.start pattern start before.reset)
  obtain ⟨last, reached, turned, members⟩ := exists_last_visit fits
  have lastFits := reached.fits fits
  generalize ran : search.run (.start pattern start before.reset) = verdict at turned spent
  cases turned with
  | exceeded exceeding => simp [exceededLimit?, unlimited] at exceeding
  | matched _ ended _ =>
      have attempted : search.attempt pattern start before =
          (.ok (some ⟨.between start last.offset, last.progress.history.toLists⟩),
            last.progress.tick.note (.matched start last.offset)) := by
        rw [attempt, ran]
        rfl
      have counted : (Match.mk (.between start last.offset)
          last.progress.history.toLists).counts = last.counts :=
        lastFits.map_length_toLists ended
      refine ⟨_, _, .of_pairwise attempted ordered ?_ spent, fun missed => by cases missed⟩
      intro counts
      rw [members, Pattern.tried, Set.mem_ofPred_eq, counted]
      exact and_congr_right fun _ => and_iff_right (.inl List.nil_prefix)
  | failed retreated =>
      have turned : search.Turned last (.halt (.ok none, _)) := .failed retreated
      refine ⟨_, _, .of_pairwise (by rw [attempt, ran]) ordered ?_ spent, ?_⟩
      · intro counts
        rw [members]
        constructor
        · rintro ⟨assignment, -, -⟩
          exact assignment
        · intro assignment
          exact ⟨assignment, .inl List.nil_prefix, turned.noLater_of_failed lastFits assignment⟩
      · intro _
        rw [← History.length_toLists, turned.toLists_of_failed lastFits, List.length_replicate]
  | underflowed retreated spare undone =>
      exact absurd (.underflowed retreated spare undone) (Turned.ne_inconsistent lastFits)

theorem exists_exploresEach (unlimited : search.stepLimit = none) (starts : List Nat)
    (sized : before.history.size = pattern.size) :
    ∃ answer after, search.ExploresEach pattern starts before answer after := by
  induction starts generalizing before with
  | nil => exact ⟨none, before, .nil⟩
  | cons start later ih =>
      obtain ⟨answer, between, explored, kept⟩ :=
        exists_explores start unlimited sized
      cases answer with
      | some found => exact ⟨some found, between, .found explored⟩
      | none =>
          obtain ⟨answer, after, rest⟩ := ih (kept rfl)
          exact ⟨answer, after, .missed explored rest⟩

theorem ExploresEach.attemptEach_eq
    (explored : search.ExploresEach pattern starts before answer after) :
    search.attemptEach pattern starts before = (.ok answer, after) := by
  induction explored with
  | nil => rfl
  | found explored => rw [attemptEach, explored.attempt_eq]
  | missed explored _ ih =>
      rw [attemptEach, explored.attempt_eq]
      exact ih

end Search

/-- Without a limit, a call takes as many steps as there are partial assignments to be
tried, each of which it visits once: all of them at an offset without a match, and at the
offset of a match those that its counts go on from and those that exceed its counts. -/
theorem Pattern.steps_eq_partialAssignments (pattern : Pattern) (subject : String) :
    (∃ answer after, pattern.unlimited.fullMatch subject = .ok answer ∧
      (pattern.unlimited.reportFullMatch (chars subject)).steps = after.steps ∧
      (pattern.unlimited.search true (chars subject)).Explores pattern 0 (.initial pattern)
        answer after) ∧
    (∃ answer after, pattern.unlimited.find subject = .ok answer ∧
      (pattern.unlimited.reportFind (chars subject)).steps = after.steps ∧
      (pattern.unlimited.search false (chars subject)).ExploresEach pattern
        (List.range (subject.length + 1)) (.initial pattern) answer after) := by
  have sized : (Progress.initial pattern).history.size = pattern.size := History.size_ofSize _
  constructor
  · have unlimited : (pattern.unlimited.search true (chars subject)).stepLimit = none := rfl
    obtain ⟨answer, after, explored, -⟩ := Search.exists_explores 0 unlimited sized
    have reported : pattern.unlimited.reportFullMatch (chars subject) =
        Search.Outcome.report (.ok answer, after) :=
      congrArg Search.Outcome.report explored.attempt_eq
    refine ⟨answer, after, ?_, ?_, explored⟩
    · rw [Matcher.fullMatch, reported]
      rfl
    · rw [reported]
      rfl
  · have unlimited : (pattern.unlimited.search false (chars subject)).stepLimit = none := rfl
    obtain ⟨answer, after, explored⟩ :=
      Search.exists_exploresEach unlimited (List.range (subject.length + 1)) sized
    have attempted := explored.attemptEach_eq
    rw [← size_chars] at attempted
    have reported : pattern.unlimited.reportFind (chars subject) =
        Search.Outcome.report (.ok answer, after) :=
      congrArg Search.Outcome.report attempted
    refine ⟨answer, after, ?_, ?_, explored⟩
    · rw [Matcher.find, reported]
      rfl
    · rw [reported]
      rfl

end PatternMatcher
