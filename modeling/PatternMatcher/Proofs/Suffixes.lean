import Mathlib
import PatternMatcher.Proofs.Leftmost
import PatternMatcher.Proofs.Lockstep

/-!
# A search is a sequence of attempts

An attempt at one offset does what it does at the beginning of the part of the subject
that starts there, whatever the search has done before: it finds the same match, moved to
its place, in the same number of steps.  So a search makes these attempts one after the
other until their steps together exceed its limit, and what stands before a match can be
taken away.
-/

namespace PatternMatcher

/-- The attempt to match some part of a subject from its beginning on, with nothing spent
or recorded before. -/
def Pattern.attemptAlone (pattern : Pattern) (subject : String) : Report :=
  ((pattern.unlimited.search false (chars subject)).attempt pattern 0 (.initial pattern)).report

/-- Attempts at one offset after another, each on what the subject is from there on.  The
steps of all of them are under one limit. -/
def Pattern.findByAttempts (pattern : Pattern) (stepLimit : Option Nat) (subject : String) :
    List Nat → Nat → Except SearchError (Option Match)
  | [], _ => .ok none
  | start :: later, spent =>
      let alone := pattern.attemptAlone (part subject start subject.length)
      match stepLimit.filter (· < spent + alone.steps), alone.answer with
      | some limit, _ => .error (.stepLimitExceeded limit)
      | none, .error error => .error error
      | none, .ok (some found) => .ok (some (found.shift start))
      | none, .ok none =>
          pattern.findByAttempts stepLimit subject later (spent + alone.steps)

section Alone

variable {pattern : Pattern} {subject : String} {start : Nat}

theorem Pattern.attemptAlone_eq (pattern : Pattern) (subject : String) :
    pattern.attemptAlone subject =
      ((pattern.unlimited.search false (chars subject)).answer pattern 0 .initial).report := by
  have sized : (Progress.initial pattern).history.size = pattern.size := History.size_ofSize _
  obtain ⟨after, attempted, told, -⟩ :=
    (pattern.unlimited.search false (chars subject)).attempt_eq_answer 0 sized
  rw [account_initial] at attempted told
  rw [attemptAlone, attempted, Search.Answer.report, ← told]
  rfl

/-- A search stands at an offset as it stands at the beginning of what follows there. -/
theorem Search.alike_part (pattern : Pattern) (subject : String) (start : Nat) :
    Alike (pattern.unlimited.search false (chars subject))
      (pattern.unlimited.search false (chars (part subject start subject.length))) start 0
      pattern.operators pattern.operators := by
  refine ⟨?_, fun _ => rfl⟩
  apply List.forall₂_same.mpr
  intro operator _
  refine ⟨rfl, ?_⟩
  intro distance
  have moved : operator.acceptsAt (chars (part subject start subject.length)) distance = true ↔
      start + distance < subject.length ∧
        operator.acceptsAt (chars subject) (start + distance) = true := by
    rw [chars_part]
    exact acceptsAt_extract_iff
  have inside : operator.acceptsAt (chars subject) (start + distance) = true →
      start + distance < subject.length := by
    intro accepted
    simpa only [size_chars] using Operator.lt_size_of_acceptsAt accepted
  rw [Nat.zero_add, Bool.eq_iff_iff]
  exact ⟨fun accepted => moved.mpr ⟨inside accepted, accepted⟩, fun here => (moved.mp here).2⟩

theorem Match.map_ofCounts_eq_shift (start : Nat)
    (result : Except SearchError (Option (List Nat))) :
    result.map (Option.map (ofCounts start)) =
      (result.map (Option.map (ofCounts 0))).map (Option.map (shift start)) := by
  have moved (counts : List Nat) : (ofCounts 0 counts).shift start = ofCounts start counts :=
    shift_ofCounts (by omega)
  rcases result with error | none | counts
  · rfl
  · rfl
  · simp [Except.map, moved]

/-- What an attempt without a limit comes to, wherever it is made. -/
theorem Search.answer_eq_alone (pattern : Pattern) (subject : String) (start : Nat)
    (account : Account) :
    ((pattern.unlimited.search false (chars subject)).answer pattern start account).1 =
        (pattern.attemptAlone (part subject start subject.length)).answer.map
          (Option.map (Match.shift start)) ∧
      ((pattern.unlimited.search false (chars subject)).answer pattern start account).2.steps =
        account.steps + (pattern.attemptAlone (part subject start subject.length)).steps := by
  have budget : SameBudget (pattern.unlimited.search false (chars subject))
      (pattern.unlimited.search false (chars (part subject start subject.length)))
      account.steps Account.initial.steps := fun _ => rfl
  obtain ⟨same, more, steps, steps'⟩ :=
    inStep_tryFrom (alike_part pattern subject start) 0 budget
  rw [Pattern.attemptAlone_eq]
  simp only [Answer.report]
  constructor
  · rw [answer_fst, answer_fst, same]
    exact Match.map_ofCounts_eq_shift start _
  · rw [answer_eq_answerOf, steps_answerOf, answer_eq_answerOf, steps_answerOf, steps, steps']
    simp [Account.initial]

theorem Pattern.exists_answer_alone (pattern : Pattern) (subject : String) :
    ∃ answer, (pattern.attemptAlone subject).answer = .ok answer := by
  rw [attemptAlone_eq]
  have settled := (pattern.unlimited.search false (chars subject)).settles_answer pattern 0 .initial
  simp only [Search.Answer.report]
  generalize ((pattern.unlimited.search false (chars subject)).answer pattern 0 .initial).1 =
    result at settled ⊢
  cases settled with
  | found _ _ _ _ => exact ⟨_, rfl⟩
  | missing _ => exact ⟨_, rfl⟩
  | exceeded limited => cases limited

end Alone

namespace Search

/-- What a limit makes of an answer, for a search with or without one. -/
theorem answer_limited (matcher : Matcher) (subject : Array Char) (start : Nat)
    (account : Account) {free : Answer}
    (freely : (matcher.pattern.unlimited.search false subject).answer matcher.pattern start
      account = free) :
    (∀ limit, matcher.stepLimit.filter (· < free.2.steps) = some limit →
      ((matcher.search false subject).answer matcher.pattern start account).1 =
        .error (.stepLimitExceeded limit)) ∧
    (matcher.stepLimit.filter (· < free.2.steps) = none →
      (matcher.search false subject).answer matcher.pattern start account = free) := by
  obtain ⟨pattern, stepLimit⟩ := matcher
  cases stepLimit with
  | none => exact ⟨nofun, fun _ => freely⟩
  | some limit =>
      have capped : CappedAt limit free _ := freely ▸ cappedAt_answer pattern start account
      constructor
      · intro limit' exceeded
        obtain ⟨same, beyond⟩ := Option.filter_eq_some_iff.mp exceeded
        cases same
        exact capped.exceeded (by simpa using beyond)
      · intro within
        apply capped.same
        simpa using within

end Search

namespace Matcher

theorem answerEach_eq_findByAttempts (matcher : Matcher) (subject : String) (starts : List Nat)
    (account : Account) :
    ((matcher.search false (chars subject)).answerEach matcher.pattern starts account).1 =
      matcher.pattern.findByAttempts matcher.stepLimit subject starts account.steps := by
  induction starts generalizing account with
  | nil => rfl
  | cons start later ih =>
      obtain ⟨same, steps⟩ := Search.answer_eq_alone matcher.pattern subject start account
      obtain ⟨answer, answered⟩ := matcher.pattern.exists_answer_alone
        (part subject start subject.length)
      generalize freely : (matcher.pattern.unlimited.search false (chars subject)).answer
        matcher.pattern start account = free at same steps
      obtain ⟨exceeded, unhindered⟩ := Search.answer_limited matcher (chars subject) start
        account freely
      rw [answered] at same
      rw [steps] at exceeded unhindered
      rw [Search.answerEach_eq_afterAnswer, Pattern.findByAttempts]
      simp only [answered]
      cases allowed : matcher.stepLimit.filter
          (· < account.steps + (matcher.pattern.attemptAlone
            (part subject start subject.length)).steps) with
      | some limit =>
          have stopped := exceeded limit allowed
          generalize (matcher.search false (chars subject)).answer matcher.pattern start
            account = limited at stopped ⊢
          obtain ⟨result, spent⟩ := limited
          cases stopped
          rfl
      | none =>
          rw [unhindered allowed]
          obtain ⟨result, spent⟩ := free
          cases same
          cases answer with
          | some found => rfl
          | none =>
              have rest := ih spent
              change spent.steps = _ at steps
              rwa [steps] at rest

theorem find_eq_attempts (matcher : Matcher) (subject : String) :
    matcher.find subject = matcher.pattern.findByAttempts matcher.stepLimit subject
      (List.range (subject.length + 1)) 0 := by
  rw [find_eq, ← List.range_eq_range']
  exact matcher.answerEach_eq_findByAttempts subject _ .initial

end Matcher

section Deletion

variable {pattern : Pattern} {stepLimit : Option Nat} {subject : String} {start spent : Nat}
  {starts skipped later : List Nat} {found : Match}

theorem part_length (subject : String) (start : Nat) :
    part subject start subject.length = .ofList (subject.toList.drop start) := by
  simp [part, List.take_of_length_le, String.length_toList]

theorem part_part (subject : String) (start further : Nat) :
    part (part subject start subject.length) further (part subject start subject.length).length =
      part subject (start + further) subject.length := by
  rw [part_length, part_length, part_length, String.toList_ofList, List.drop_drop]

theorem Match.shift_shift (first second : Int) (found : Match) :
    (found.shift first).shift second = found.shift (first + second) := by
  simp [shift, Span.shift, Function.comp_def, Int.add_assoc]

theorem Pattern.start_of_alone
    (answered : (pattern.attemptAlone subject).answer = .ok (some found)) :
    found.span.start = 0 := by
  rw [attemptAlone_eq] at answered
  obtain ⟨counts, -, rfl⟩ := Search.tryFrom_of_answer answered
  rfl

/-- How a match is found by attempts: by the first one, or by the others after it. -/
theorem Pattern.findByAttempts_cons_iff :
    pattern.findByAttempts stepLimit subject (start :: later) spent = .ok (some found) ↔
      let alone := pattern.attemptAlone (part subject start subject.length)
      stepLimit.filter (· < spent + alone.steps) = none ∧
        ((∃ original, alone.answer = .ok (some original) ∧ original.shift start = found) ∨
          alone.answer = .ok none ∧
            pattern.findByAttempts stepLimit subject later (spent + alone.steps) =
              .ok (some found)) := by
  obtain ⟨answer, answered⟩ := pattern.exists_answer_alone (part subject start subject.length)
  rw [findByAttempts]
  simp only [answered]
  cases stepLimit.filter (· < spent +
      (pattern.attemptAlone (part subject start subject.length)).steps) with
  | some limit => simp
  | none =>
      cases answer with
      | none => simp
      | some original => simp

theorem Pattern.findByAttempts_of_le {fewer : Nat} (less : fewer ≤ spent)
    (answered : pattern.findByAttempts stepLimit subject starts spent = .ok (some found)) :
    pattern.findByAttempts stepLimit subject starts fewer = .ok (some found) := by
  induction starts generalizing spent fewer with
  | nil => cases answered
  | cons start later ih =>
      rw [findByAttempts_cons_iff] at answered ⊢
      obtain ⟨within, decided⟩ := answered
      constructor
      · rw [Option.filter_eq_none_iff] at within ⊢
        intro limit limited
        have reach := within limit limited
        simp only [decide_eq_true_eq] at reach ⊢
        omega
      · rcases decided with here | ⟨missed, rest⟩
        · exact .inl here
        · exact .inr ⟨missed, ih (Nat.add_le_add_right less _) rest⟩

theorem Pattern.findByAttempts_of_append
    (answered : pattern.findByAttempts stepLimit subject (skipped ++ later) spent =
      .ok (some found))
    (before : ∀ start ∈ skipped, (start : Int) < found.span.start) :
    pattern.findByAttempts stepLimit subject later 0 = .ok (some found) := by
  induction skipped generalizing spent with
  | nil => exact findByAttempts_of_le (Nat.zero_le spent) answered
  | cons start skipped ih =>
      obtain ⟨first, others⟩ := List.forall_mem_cons.mp before
      rw [List.cons_append, findByAttempts_cons_iff] at answered
      obtain ⟨-, ⟨original, alone, rfl⟩ | ⟨-, rest⟩⟩ := answered
      · have placed := start_of_alone alone
        simp [Match.shift, Span.shift, placed] at first
      · exact ih rest others

theorem Pattern.findByAttempts_part {deleted : Nat}
    (answered : pattern.findByAttempts stepLimit subject (starts.map (deleted + ·)) spent =
      .ok (some found)) :
    pattern.findByAttempts stepLimit (part subject deleted subject.length) starts spent =
      .ok (some (found.shift (-deleted))) := by
  induction starts generalizing spent with
  | nil => cases answered
  | cons start later ih =>
      rw [List.map_cons, findByAttempts_cons_iff] at answered
      rw [findByAttempts_cons_iff, part_part]
      obtain ⟨within, ⟨original, alone, rfl⟩ | ⟨missed, rest⟩⟩ := answered
      · refine ⟨within, .inl ⟨original, alone, ?_⟩⟩
        rw [Match.shift_shift]
        congr 1
        omega
      · exact ⟨within, .inr ⟨missed, ih rest⟩⟩

end Deletion

namespace Matcher

/-- Deleting characters in front of a match moves it, under the same limit. -/
theorem find_part {matcher : Matcher} {subject : String} {found : Match} {deleted : Nat}
    (answered : matcher.find subject = .ok (some found))
    (before : (deleted : Int) ≤ found.span.start) :
    matcher.find (part subject deleted subject.length) = .ok (some (found.shift (-deleted))) := by
  rw [find_eq_attempts] at answered
  have skips : ∀ start ∈ List.range deleted, (start : Int) < found.span.start := by
    intro start member
    have inside := List.mem_range.mp member
    omega
  have inside : deleted ≤ subject.length := by
    by_contra beyond
    have skipsAll : ∀ start ∈ List.range (subject.length + 1),
        (start : Int) < found.span.start := by
      intro start member
      have within := List.mem_range.mp member
      omega
    rw [← List.append_nil (List.range (subject.length + 1))] at answered
    cases Pattern.findByAttempts_of_append answered skipsAll
  have split : List.range (subject.length + 1) = List.range deleted ++
      (List.range (subject.length - deleted + 1)).map (deleted + ·) := by
    rw [← List.range_add]
    congr 1
    omega
  rw [split] at answered
  rw [find_eq_attempts, length_part (Nat.le_refl _)]
  exact Pattern.findByAttempts_part (Pattern.findByAttempts_of_append answered skips)

/-- A search makes attempts at one offset after another, each of which does what it does
alone on the rest of the subject, however the search has come to it. -/
theorem find_eq_findByAttempts (matcher : Matcher) (subject : String) :
    matcher.find subject = matcher.pattern.findByAttempts matcher.stepLimit subject
        (List.range (subject.length + 1)) 0 ∧
      (∀ text, ∃ answer, (matcher.pattern.attemptAlone text).answer = .ok answer) ∧
      (∀ (start : Nat) (before : Progress), before.history.size = matcher.pattern.size →
        let alone := matcher.pattern.attemptAlone (part subject start subject.length)
        let here := (matcher.pattern.unlimited.search false (chars subject)).attempt
          matcher.pattern start before
        here.1 = alone.answer.map (Option.map (Match.shift start)) ∧
          here.2.steps = before.steps + alone.steps) ∧
      (∀ (deleted : Nat) (found : Match), matcher.find subject = .ok (some found) →
        (deleted : Int) ≤ found.span.start →
        matcher.find (part subject deleted subject.length) =
          .ok (some (found.shift (-deleted)))) := by
  refine ⟨matcher.find_eq_attempts subject, matcher.pattern.exists_answer_alone, ?_, ?_⟩
  · intro start before sized alone here
    obtain ⟨after, attempted, told, -⟩ := Search.attempt_eq_answer
      (matcher.pattern.unlimited.search false (chars subject)) start sized
    obtain ⟨same, steps⟩ := Search.answer_eq_alone matcher.pattern subject start before.account
    have spent : here.2.steps = after.account.steps := by
      simp only [here, attempted]
      rfl
    constructor
    · rw [← same]
      exact congrArg Prod.fst attempted
    · rw [spent, told]
      exact steps
  · intro deleted found answered before
    exact find_part answered before

/-- A match behind a failed attempt, with a limit that the attempts spend in full. -/
theorem find_eq_findByAttempts_behind :
    let matcher : Matcher :=
      ⟨⟨[⟨.literal 'a', .once⟩, ⟨.literal 'b', .oneOrMore⟩]⟩, some 5⟩
    let before : Progress := ⟨3, .ofSize 2, #[]⟩
    let found : Match := ⟨.between 1 4, [[.single 1], [.single 2, .single 3]]⟩
    before.history.size = matcher.pattern.size ∧
      ((matcher.pattern.unlimited.search false (chars "aabbc")).attempt matcher.pattern 1
        before).2.steps =
          3 + (matcher.pattern.attemptAlone (part "aabbc" 1 "aabbc".length)).steps ∧
      matcher.find "aabbc" = .ok (some found) ∧ ((1 : Nat) : Int) ≤ found.span.start ∧
      matcher.find (part "aabbc" 1 "aabbc".length) = .ok (some (found.shift (-1))) := by
  intro matcher before found
  have sized : before.history.size = matcher.pattern.size := rfl
  have answered : matcher.find "aabbc" = .ok (some found) := by decide +kernel
  have placed : ((1 : Nat) : Int) ≤ found.span.start := by decide
  obtain ⟨-, -, alone, deletion⟩ := find_eq_findByAttempts matcher "aabbc"
  exact ⟨sized, (alone 1 before sized).2, answered, placed, deletion 1 found answered placed⟩

end Matcher

end PatternMatcher
