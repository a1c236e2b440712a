import Mathlib
import PatternMatcher.Proofs.Unlimited

/-!
# Anchored and free matching agree

A search for the whole subject and a search for a part of it take the same
turns until a complete parse ends before the end of the subject: there the free
one succeeds and the anchored one gives back.  Since the first complete parse
is the one that ends last, the anchored one gives back in vain.  So a full
match, at any step limit, is the match of a free search that spans the subject.
-/

namespace PatternMatcher

namespace Search

/-- The same search with matches that may end anywhere. -/
def free (search : Search) : Search := { search with anchored := false }

theorem mayEndAt_free (search : Search) (offset : Nat) : search.free.mayEndAt offset = true :=
  rfl

/-- A choice that is no success, or one of which the total is accepted. -/
def EndsWhere (accepted : Nat → Prop) : Choice → Prop
  | (.ok (some counts), _) => accepted counts.sum
  | _ => True

theorem endsWhere_iff {accepted : Nat → Prop} {choice : Choice} {counts : List Nat}
    (found : choice.1 = .ok (some counts)) :
    EndsWhere accepted choice ↔ accepted counts.sum := by
  obtain ⟨result, spent⟩ := choice
  cases found
  exact Iff.rfl

variable {search : Search} {operators : List Operator} {index offset : Nat}
  {account : Account}

theorem tryCounts_eq_of_attempts {attempt freely : Nat → Account → Choice}
    (accepted : Nat → Prop) {min count : Nat}
    (attempts : ∀ count account,
      EndsWhere (fun total => accepted (count + total)) (freely count account) →
      attempt count account = freely count account)
    (final : EndsWhere accepted (tryCounts freely index min count account)) :
    tryCounts attempt index min count account =
      tryCounts freely index min count account := by
  fun_induction tryCounts freely index min count account with
  | case1 count account error spent attempted =>
      have same := attempts count account (by rw [attempted]; trivial)
      exact tryCounts_of_error (same.trans attempted)
  | case2 count account counts spent attempted =>
      have total : accepted (count + counts.sum) := by
        rw [← List.sum_cons]
        exact final
      have same := attempts count account (by rw [attempted]; exact total)
      exact tryCounts_of_some (same.trans attempted)
  | case3 account spent attempted =>
      have same := attempts 0 account (by rw [attempted]; trivial)
      exact tryCounts_of_le (same.trans attempted) (Nat.zero_le _)
  | case4 account spent fewer bare attempted =>
      have same := attempts (fewer + 1) account (by rw [attempted]; trivial)
      exact tryCounts_of_le (same.trans attempted) bare
  | case5 account spent fewer spare attempted ih =>
      have same := attempts (fewer + 1) account (by rw [attempted]; trivial)
      rw [tryCounts_of_lt (same.trans attempted) (Nat.lt_of_not_le spare)]
      exact ih final

theorem tryFrom_eq_free_of_exceeded {limit : Nat}
    (exceeded : search.exceededLimit? (account.steps + 1) = some limit) :
    search.tryFrom operators index offset account =
      search.free.tryFrom operators index offset account := by
  have freelyExceeded : search.free.exceededLimit? (account.steps + 1) = some limit := exceeded
  rw [tryFrom_of_exceeded exceeded, tryFrom_of_exceeded freelyExceeded]

/-- The recursion goes the same way in both searches, if the free one does not
end where the other may not. -/
theorem tryFrom_eq_free
    (final : EndsWhere (fun total => search.mayEndAt (offset + total) = true)
      (search.free.tryFrom operators index offset account)) :
    search.tryFrom operators index offset account =
      search.free.tryFrom operators index offset account := by
  induction operators generalizing index offset account with
  | nil =>
      cases allowed : search.exceededLimit? (account.steps + 1) with
      | some limit => exact tryFrom_eq_free_of_exceeded allowed
      | none =>
          have freelyAllowed : search.free.exceededLimit? (account.steps + 1) = none := allowed
          have freely : search.free.tryFrom [] index offset account =
              (.ok (some []), account.tick) :=
            tryFrom_nil_of_mayEnd freelyAllowed (search.mayEndAt_free offset)
          rw [freely] at final ⊢
          exact tryFrom_nil_of_mayEnd allowed final
  | cons operator later ih =>
      cases allowed : search.exceededLimit? (account.steps + 1) with
      | some limit => exact tryFrom_eq_free_of_exceeded allowed
      | none =>
          have freelyAllowed : search.free.exceededLimit? (account.steps + 1) = none := allowed
          by_cases tooFew : operator.greedyCount search.subject offset 0 < operator.min
          · have freelyTooFew :
                operator.greedyCount search.free.subject offset 0 < operator.min := tooFew
            rw [tryFrom_cons_of_lt allowed tooFew, tryFrom_cons_of_lt freelyAllowed freelyTooFew]
            rfl
          · have enough := Nat.le_of_not_lt tooFew
            have freelyEnough :
                operator.min ≤ operator.greedyCount search.free.subject offset 0 := enough
            rw [tryFrom_cons_of_le freelyAllowed freelyEnough] at final ⊢
            rw [tryFrom_cons_of_le allowed enough]
            refine tryCounts_eq_of_attempts _ ?_ final
            intro count account accepted
            apply ih
            simp only [Nat.add_assoc]
            exact accepted

/-- Where the one search succeeds, the free one does not end too early: its
first complete parse is the one that ends last. -/
theorem endsWhere_free_of_found {counts : List Nat}
    (found : (search.tryFrom operators index offset account).1 = .ok (some counts)) :
    EndsWhere (fun total => search.mayEndAt (offset + total) = true)
      (search.free.tryFrom operators index offset account) := by
  have decided := search.decides_tryFrom operators index offset account
  have freelyDecided := search.free.decides_tryFrom operators index offset account
  rw [found] at decided
  generalize search.free.tryFrom operators index offset account = choice at freelyDecided ⊢
  obtain ⟨result, spent⟩ := choice
  cases freelyDecided with
  | missing _ => trivial
  | exceeded _ => trivial
  | @found freeCounts freeStop freeGreediest =>
      cases decided with
      | @found _ stop greediest =>
          have freeAssigned : Assigns search.subject operators offset freeCounts freeStop :=
            freeGreediest.assigns
          have last : stop ≤ freeStop := freeGreediest.stop_le greediest.assigns rfl
          have ending := greediest.mayEnd_stop
          change search.mayEndAt (offset + freeCounts.sum) = true
          rw [← freeAssigned.stop_eq]
          simp only [mayEndAt, Bool.or_eq_true, beq_iff_eq] at ending ⊢
          rcases ending with anywhere | atEnd
          · exact .inl anywhere
          · have ordered := greediest.assigns.start_le
            have within := freeAssigned.stop_le (by omega)
            exact .inr (by omega)

theorem answer_eq_free {pattern : Pattern} {start : Nat}
    (final : EndsWhere (fun total => search.mayEndAt (start + total) = true)
      (search.free.tryFrom pattern.operators 0 start account)) :
    search.answer pattern start account = search.free.answer pattern start account := by
  rw [answer, answer, tryFrom_eq_free final]

theorem run_free_of_complete {state : SearchState}
    (within : search.exceededLimit? (state.progress.steps + 1) = none)
    (complete : state.pending = []) :
    (search.free.run state).1 = .ok (some state.offset) := by
  have freelyWithin : search.free.exceededLimit? (state.progress.steps + 1) = none := within
  rw [run_eq_resume, turn_of_within freelyWithin, advance]
  simp only [complete, mayEndAt_free, if_true]
  rfl

theorem turn_free_of_pending {state : SearchState} {operator : Operator}
    {later : List Operator} (more : state.pending = operator :: later) :
    search.free.turn state = search.turn state := by
  simp only [turn, advance, more]
  rfl

/-- If a complete parse has been refused on the way to a success, then the free
search succeeds earlier, where the other one may not end. -/
theorem run_free_of_refused {first last : SearchState} {stop : Nat}
    (reached : search.Reaches first last) (complete : last.pending = [])
    (refused : search.mayEndAt last.offset = false)
    (succeeded : (search.run first).1 = .ok (some stop)) :
    ∃ early, (search.free.run first).1 = .ok (some early) ∧
      search.mayEndAt early = false := by
  induction reached with
  | refl state =>
      cases allowed : search.exceededLimit? (state.progress.steps + 1) with
      | some limit =>
          rw [run_of_halt (turn_of_exceeded allowed)] at succeeded
          cases succeeded
      | none => exact ⟨_, run_free_of_complete allowed complete, refused⟩
  | @next first second last taken _ ih =>
      rw [run_of_again taken] at succeeded
      obtain ⟨early, freely, refusedEarly⟩ := ih complete refused succeeded
      cases allowed : search.exceededLimit? (first.progress.steps + 1) with
      | some limit =>
          rw [turn_of_exceeded allowed] at taken
          cases taken
      | none =>
          cases more : first.pending with
          | nil =>
              cases ending : search.mayEndAt first.offset with
              | true =>
                  rw [turn_of_within allowed, advance] at taken
                  simp only [more, ending, if_true] at taken
                  cases taken
              | false => exact ⟨_, run_free_of_complete allowed more, ending⟩
          | cons operator later =>
              rw [← turn_free_of_pending more] at taken
              exact ⟨early, by rw [run_of_again taken, freely], refusedEarly⟩

/-- A search that has refused a complete parse does not succeed any more. -/
theorem run_ne_of_refused {pattern : Pattern} {start : Nat} {progress : Progress}
    {state : SearchState} (sized : progress.history.size = pattern.size)
    (reached : search.Reaches (.start pattern start progress.reset) state)
    (complete : state.pending = []) (refused : search.mayEndAt state.offset = false)
    (stop : Nat) : (search.run state).1 ≠ .ok (some stop) := by
  intro succeeded
  rw [← reached.run_eq] at succeeded
  obtain ⟨early, freely, refusedEarly⟩ :=
    run_free_of_refused reached complete refused succeeded
  rw [run_start_fst search start sized] at succeeded
  rw [run_start_fst search.free start sized] at freely
  obtain ⟨counts, found, -⟩ := found_of_map_eq succeeded
  obtain ⟨freeCounts, freelyFound, sum⟩ := found_of_map_eq freely
  have accepted := (endsWhere_iff freelyFound).mp (endsWhere_free_of_found found)
  rw [← sum, refusedEarly] at accepted
  cases accepted

end Search

namespace Matcher

variable {matcher : Matcher} {subject : String} {found : Match}

theorem answer_free_of_fullMatch
    (answered : matcher.fullMatch subject = .ok (some found)) :
    (matcher.search true (chars subject)).answer matcher.pattern 0 .initial =
      (matcher.search false (chars subject)).answer matcher.pattern 0 .initial := by
  rw [fullMatch_eq] at answered
  obtain ⟨counts, success, -⟩ := Search.tryFrom_of_answer answered
  exact Search.answer_eq_free (Search.endsWhere_free_of_found success)

theorem span_of_fullMatch (answered : matcher.fullMatch subject = .ok (some found)) :
    found.span = .between 0 subject.length := by
  have settled := matcher.settles_fullMatch subject
  rw [answered] at settled
  cases settled with
  | @found start stop counts _ before _ greediest =>
      have first : start = 0 := Nat.lt_one_iff.mp before
      have last := mayEndAt_search_true.mp greediest.mayEnd_stop
      rw [size_chars] at last
      rw [Match.ofCounts, ← greediest.assigns.stop_eq, first, last]

theorem reportFind_of_fullMatch (answered : matcher.fullMatch subject = .ok (some found)) :
    matcher.reportFind (chars subject) = matcher.reportFullMatch (chars subject) := by
  have same := answer_free_of_fullMatch answered
  rw [fullMatch_eq, same] at answered
  rw [reportFind_eq, reportFullMatch_eq, same, List.range_eq_range', List.range'_succ,
    Search.answerEach_of_found answered]

theorem fullMatch_of_answer
    (answered : ((matcher.search false (chars subject)).answer matcher.pattern 0 .initial).1 =
      .ok (some found))
    (spanning : found.span = .between 0 subject.length) :
    ((matcher.search true (chars subject)).answer matcher.pattern 0 .initial).1 =
      .ok (some found) := by
  obtain ⟨counts, success, rfl⟩ := Search.tryFrom_of_answer answered
  have last : ((0 + counts.sum : Nat) : Int) = (subject.length : Int) :=
    congrArg Span.stop spanning
  have ending : (matcher.search true (chars subject)).mayEndAt (0 + counts.sum) = true := by
    rw [mayEndAt_search_true, size_chars]
    exact Int.ofNat.inj last
  rw [Search.answer_eq_free ((Search.endsWhere_iff success).mpr ending)]
  exact answered

theorem fullMatch_of_find (answered : matcher.find subject = .ok (some found))
    (spanning : found.span = .between 0 subject.length) :
    matcher.fullMatch subject = .ok (some found) := by
  rw [find_eq, List.range'_succ, Search.answerEach] at answered
  rw [fullMatch_eq]
  generalize decision : (matcher.search false (chars subject)).answer matcher.pattern 0
    .initial = decided at answered
  obtain ⟨result, account⟩ := decided
  cases result with
  | error error => cases answered
  | ok answer =>
      cases answer with
      | none =>
          have settled := (matcher.search false (chars subject)).settles_answerEach
            matcher.pattern 1 subject.length account
          simp only at answered
          rw [answered] at settled
          cases settled with
          | found after _ _ _ =>
              -- A later offset would show in the span.
              have first : ((_ : Nat) : Int) = ((0 : Nat) : Int) :=
                congrArg Span.start spanning
              omega
      | some other =>
          cases answered
          have answered' : ((matcher.search false (chars subject)).answer matcher.pattern 0
              .initial).1 = .ok (some found) := by rw [decision]
          exact fullMatch_of_answer answered' spanning

/-- Whatever the step limit, the full match is the match of a search that spans
the subject, and both come with the same report.  A search for the whole subject
that has refused a complete parse does not succeed any more. -/
theorem fullMatch_iff_find_spanning (matcher : Matcher) (subject : String) :
    (∀ found, matcher.fullMatch subject = .ok (some found) ↔
      matcher.find subject = .ok (some found) ∧ found.span = .between 0 subject.length) ∧
    (∀ found, matcher.fullMatch subject = .ok (some found) →
      matcher.reportFind (chars subject) = matcher.reportFullMatch (chars subject)) ∧
    (∀ state stop,
      (matcher.search true (chars subject)).Reaches
        (.start matcher.pattern 0 (Progress.initial matcher.pattern).reset) state →
      state.pending = [] → state.offset ≠ subject.length →
      ((matcher.search true (chars subject)).run state).1 ≠ .ok (some stop)) := by
  refine ⟨?_, ?_, ?_⟩
  · intro found
    constructor
    · intro answered
      refine ⟨?_, span_of_fullMatch answered⟩
      have same := reportFind_of_fullMatch answered
      exact (congrArg Report.answer same).trans answered
    · intro spanned
      obtain ⟨answered, spanning⟩ := spanned
      exact fullMatch_of_find answered spanning
  · intro found answered
    exact reportFind_of_fullMatch answered
  · intro state stop reached complete elsewhere
    apply Search.run_ne_of_refused (History.size_ofSize _) reached complete
    rw [Bool.eq_false_iff, Ne, mayEndAt_search_true, size_chars]
    exact elsewhere

end Matcher

end PatternMatcher
