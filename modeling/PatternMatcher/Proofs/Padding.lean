import Mathlib
import PatternMatcher.Proofs.Concatenation
import PatternMatcher.Proofs.Leftmost
import PatternMatcher.Proofs.Sequences
import PatternMatcher.Proofs.Tiling

/-!
# Searching by matching the whole

A pattern between two wildcard runs matches a subject as a whole exactly if the pattern
matches some part of it.  The first run is greedy, so the part that the pattern gets begins
as far right as possible, where a search begins as far left; from there on the pattern is
matched as a search on the rest of the subject matches it, since the second run can be
completed wherever the pattern ends.
-/

namespace PatternMatcher

/-- The operator that takes as much as it can of anything. -/
def Operator.anyRun : Operator := ⟨.any, .zeroOrMore⟩

/-- A pattern between two wildcard runs. -/
def Pattern.padded (pattern : Pattern) : Pattern :=
  ⟨.anyRun :: (pattern.operators ++ [.anyRun])⟩

/-- The match of a padded pattern consists of a match of the pattern itself, from `start` to
`stop`, and of the characters before and behind it. -/
structure Match.Surrounds (whole found : Match) (start stop length : Nat) : Prop where
  span_eq : found.span = .between start stop
  whole_span_eq : whole.span = .between 0 length
  repetitions_eq : whole.repetitions =
    Span.singles 0 start :: (found.repetitions ++ [Span.singles stop (length - stop)])
  consumed_eq : whole.consumed =
    .between 0 start :: (found.consumed ++ [.between stop length])

namespace Pattern

theorem parse_padded {text : String} {pattern : Pattern} (given : parse text = .ok pattern) :
    parse (".*" ++ text ++ ".*") = .ok pattern.padded := by
  have run : ofChars ['.', '*'] = .ok ⟨[.anyRun]⟩ := by decide +kernel
  have front := ofChars_append given ['.', '*'] (by simp [run])
  rw [run] at front
  have whole := ofChars_append run (text.toList ++ ['.', '*']) (by simp [front, behind])
  rw [front] at whole
  rw [parse, String.toList_append, String.toList_append, List.append_assoc]
  exact whole

end Pattern

section AnyRun

variable {subject : Array Char} {mayEnd : Nat → Prop} {operators : List Operator}
  {start stop offset count : Nat} {counts : List Nat}

theorem Operator.takes_anyRun_iff (inside : offset ≤ subject.size) :
    anyRun.Takes subject offset count ↔ offset + count ≤ subject.size := by
  constructor
  · intro taken
    exact taken.add_le inside
  · intro reach
    refine ⟨Nat.zero_le _, nofun, ?_⟩
    intro position after before
    have within : position < subject.size := by omega
    simp [acceptsAt, anyRun, Atom.accepts, within]

/-- Behind a wildcard run, operators can be completed if they can be from some later offset. -/
theorem completable_anyRun_iff (inside : start ≤ subject.size) :
    Completable subject mayEnd (.anyRun :: operators) start ↔
      ∃ middle, start ≤ middle ∧ middle ≤ subject.size ∧
        Completable subject mayEnd operators middle := by
  constructor
  · intro completable
    obtain ⟨counts, stop, assigned, ending⟩ := completable
    obtain ⟨count, rest, rfl, taken, later⟩ := Assigns.cons_iff.mp assigned
    exact ⟨start + count, Nat.le_add_right _ _, taken.add_le inside, rest, stop, later, ending⟩
  · intro behind
    obtain ⟨middle, after, within, counts, stop, later, ending⟩ := behind
    obtain ⟨count, rfl⟩ := Nat.exists_eq_add_of_le after
    have taken := (Operator.takes_anyRun_iff inside).mpr within
    exact ⟨count :: counts, stop, .cons taken later, ending⟩

theorem completable_anyRun_last {offset : Nat} (inside : offset ≤ subject.size) :
    Completable subject (· = subject.size) [.anyRun] offset ↔ True := by
  apply iff_of_true _ trivial
  exact (completable_anyRun_iff inside).mpr
    ⟨subject.size, inside, Nat.le_refl _, [], subject.size, .nil _, rfl⟩

theorem completable_append_anyRun_iff (inside : start ≤ subject.size) :
    Completable subject (· = subject.size) (operators ++ [.anyRun]) start ↔
      Completable subject (fun _ => True) operators start := by
  rw [completable_append_iff]
  exact completable_congr (fun _ => completable_anyRun_last) inside

/-- Operators that need not end anywhere in particular are not hindered by a wildcard run
behind them. -/
theorem Greediest.of_append_anyRun (inside : start ≤ subject.size)
    (greediest : Greediest subject (· = subject.size) (operators ++ [.anyRun]) start counts stop) :
    ∃ own middle, counts = own ++ [subject.size - middle] ∧ middle ≤ subject.size ∧
      Greediest subject (fun _ => True) operators start own middle := by
  obtain ⟨own, second, middle, rfl, before, after⟩ := Greediest.append_iff.mp greediest
  have within := before.assigns.stop_le inside
  refine ⟨own, middle, ?_, within, before.congr (fun _ => completable_anyRun_last) inside⟩
  obtain ⟨count, rest, rfl, -, nothing⟩ := Assigns.cons_iff.mp after.assigns
  obtain ⟨rfl, total⟩ := Assigns.nil_iff.mp nothing
  have ending : stop = subject.size := after.mayEnd_stop
  have last : count = subject.size - middle := by omega
  rw [last]

end AnyRun

theorem Match.surrounds_ofCounts {start stop length : Nat} {counts : List Nat}
    (total : stop = start + counts.sum) (within : stop ≤ length) :
    (ofCounts 0 (start :: (counts ++ [length - stop]))).Surrounds
      (ofCounts start counts) start stop length where
  span_eq := by
    rw [total]
    rfl
  whole_span_eq := by
    have whole : 0 + (start :: (counts ++ [length - stop])).sum = length := by
      rw [List.sum_cons, List.sum_append, List.sum_singleton]
      omega
    rw [ofCounts, whole]
  repetitions_eq := by
    change shares 0 (start :: (counts ++ [length - stop])) = _
    rw [shares, shares_append, Nat.zero_add, ← total]
    rfl
  consumed_eq := by
    rw [consumed_ofCounts, consumed_ofCounts, shares, tile, stopOf_singles, Nat.zero_add,
      tile_shares_append, ← total, shares, tile, stopOf_singles, Nat.add_sub_cancel' within]
    rfl

namespace Pattern

variable {pattern : Pattern} {subject : String} {start stop : Nat} {counts : List Nat}

/-- A greediest assignment is what a search finds in the rest of the subject. -/
theorem find?_part_of_greediest (inSubject : start ≤ subject.length)
    (greediest : Greediest (chars subject) (fun _ => True) pattern.operators start counts stop) :
    pattern.find? (part subject start subject.length) = some (.ofCounts 0 counts) := by
  have moved {others : List Nat} {last : Nat} (within : start + last ≤ subject.length) :
      Assigns (chars (part subject start subject.length)) pattern.operators 0 others last ↔
        Assigns (chars subject) pattern.operators start others (start + last) := by
    rw [chars_part]
    exact assigns_extract_iff within
  obtain ⟨length, rfl⟩ := Nat.exists_eq_add_of_le greediest.assigns.start_le
  have own := (moved (stop_le_length inSubject greediest.assigns)).mpr greediest.assigns
  cases answered : pattern.find? (part subject start subject.length) with
  | none =>
      exact absurd ⟨counts, length, own, trivial⟩
        (find?_eq_none_iff.mp answered 0 (Nat.zero_le _))
  | some found =>
      obtain ⟨first, others, last, -, leftmost, greediest', rfl⟩ :=
        find?_eq_some_iff.mp answered
      obtain rfl : first = 0 := by
        apply Nat.eq_zero_of_not_pos
        intro later
        exact leftmost 0 later ⟨counts, length, own, trivial⟩
      have inPart := stop_le_length (Nat.zero_le _) greediest'.assigns
      rw [length_part (Nat.le_refl _)] at inPart
      have below : others ≤ counts :=
        greediest.counts_le ((moved (by omega)).mp greediest'.assigns) trivial
      have above : counts ≤ others := greediest'.counts_le own trivial
      rw [le_antisymm below above]

theorem padded_isMatch_iff :
    pattern.padded.isMatch subject = true ↔
      ∃ start, start ≤ subject.length ∧
        Completable (chars subject) (fun _ => True) pattern.operators start := by
  rw [isMatch_iff_covers, ← completable_iff_covers, ← size_chars, padded,
    completable_anyRun_iff (Nat.zero_le _)]
  constructor
  · intro behind
    obtain ⟨middle, -, within, completable⟩ := behind
    exact ⟨middle, within, (completable_append_anyRun_iff within).mp completable⟩
  · intro somewhere
    obtain ⟨start, within, completable⟩ := somewhere
    exact ⟨start, Nat.zero_le _, within, (completable_append_anyRun_iff within).mpr completable⟩

/-- What a padded pattern takes in front of the pattern, it takes greedily. -/
theorem exists_greediest_of_padded {whole : Match}
    (answered : pattern.padded.fullMatch? subject = some whole) :
    ∃ start counts stop, start ≤ subject.length ∧ stop ≤ subject.length ∧
      whole = .ofCounts 0 (start :: (counts ++ [subject.length - stop])) ∧
      Greediest (chars subject) (fun _ => True) pattern.operators start counts stop ∧
      ∀ later, start < later → later ≤ subject.length →
        ¬Completable (chars subject) (fun _ => True) pattern.operators later := by
  obtain ⟨counts, greediest, rfl⟩ := fullMatch?_eq_some_iff.mp answered
  rw [← size_chars] at greediest ⊢
  cases greediest with
  | @cons _ _ _ start _ counts taken largest behind =>
      rw [Nat.zero_add] at behind
      have within : start ≤ (chars subject).size := by
        rw [← Nat.zero_add start]
        exact taken.add_le (Nat.zero_le _)
      obtain ⟨own, middle, rfl, inside, greediest⟩ := behind.of_append_anyRun within
      refine ⟨start, own, middle, within, inside, rfl, greediest, ?_⟩
      intro later above reach completable
      rw [← Nat.zero_add later] at reach completable
      apply largest later above
      · exact (Operator.takes_anyRun_iff (Nat.zero_le _)).mpr reach
      · exact (completable_append_anyRun_iff reach).mpr completable

/-- A search for a pattern finds something exactly if the padded pattern matches the whole
subject.  The first wildcard run then ends at the last offset from which the pattern matches
any part; behind it the operators of the pattern have the repetitions that a search finds in
the rest of the subject. -/
theorem find_iff_padded_fullMatch (text : String) (pattern : Pattern)
    (given : parse text = .ok pattern) :
    parse (".*" ++ text ++ ".*") = .ok pattern.padded ∧
    ∀ subject : String,
      ((∃ found, pattern.find? subject = some found) ↔
        pattern.padded.isMatch subject = true) ∧
      ∀ whole, pattern.padded.fullMatch? subject = some whole →
        ∃ (start stop : Nat) (found : Match),
          IsGreatest { first | ∃ last, first ≤ last ∧ last ≤ subject.length ∧
            pattern.isMatch (part subject first last) = true } start ∧
          pattern.find? (part subject start subject.length) = some found ∧
          whole.Surrounds (found.shift start) start stop subject.length := by
  refine ⟨parse_padded given, fun subject => ⟨?_, ?_⟩⟩
  · rw [exists_found_iff_completable, padded_isMatch_iff]
  · intro whole answered
    obtain ⟨start, counts, stop, inSubject, within, rfl, greediest, last⟩ :=
      exists_greediest_of_padded answered
    refine ⟨start, stop, .ofCounts 0 counts, ⟨?_, ?_⟩, ?_, ?_⟩
    · exact (completable_iff_part inSubject).mp greediest.completable
    · intro first matchable
      obtain ⟨beyond, ordered, inside, matched⟩ := matchable
      apply Nat.le_of_not_lt
      intro later
      have reach := Nat.le_trans ordered inside
      exact last first later reach
        ((completable_iff_part reach).mpr ⟨beyond, ordered, inside, matched⟩)
    · exact find?_part_of_greediest inSubject greediest
    · have moved : ((0 : Nat) : Int) + (start : Int) = start := by omega
      rw [Match.shift_ofCounts moved]
      exact Match.surrounds_ofCounts greediest.assigns.stop_eq within

/-- A search finds the first of two parts, the padded pattern the second. -/
theorem find_iff_padded_fullMatch_twice :
    let pattern : Pattern := ⟨[⟨.literal 'a', .oneOrMore⟩, ⟨.any, .optional⟩]⟩
    let whole : Match :=
      ⟨.between 0 7, [Span.singles 0 4, [.single 4], [.single 5], [.single 6]]⟩
    parse "a+.?" = .ok pattern ∧ parse (".*" ++ "a+.?" ++ ".*") = .ok pattern.padded ∧
      ((∃ found, pattern.find? "éaaxaéz" = some found) ↔
        pattern.padded.isMatch "éaaxaéz" = true) ∧
      pattern.padded.fullMatch? "éaaxaéz" = some whole ∧
      ∃ (start stop : Nat) (found : Match),
        IsGreatest { first | ∃ last, first ≤ last ∧ last ≤ "éaaxaéz".length ∧
          pattern.isMatch (part "éaaxaéz" first last) = true } start ∧
        pattern.find? (part "éaaxaéz" start "éaaxaéz".length) = some found ∧
        whole.Surrounds (found.shift start) start stop "éaaxaéz".length := by
  intro pattern whole
  have given : parse "a+.?" = .ok pattern := by decide +kernel
  have answered : pattern.padded.fullMatch? "éaaxaéz" = some whole := by decide +kernel
  obtain ⟨padded, reduces⟩ := find_iff_padded_fullMatch "a+.?" pattern given
  exact ⟨given, padded, (reduces "éaaxaéz").1, answered, (reduces "éaaxaéz").2 whole answered⟩

end Pattern

end PatternMatcher
