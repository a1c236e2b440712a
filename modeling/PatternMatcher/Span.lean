/-!
# Spans of a subject

A span `[start, stop)` covers the characters from offset `start` up to, and
without, offset `stop`.  A bound of `-1` marks a span as unset.
-/

namespace PatternMatcher

/-- A half-open stretch of character offsets. -/
structure Span where
  start : Int
  stop : Int
  deriving DecidableEq, Repr

/-- Bounds that no span may have. -/
structure SpanError where
  start : Int
  stop : Int
  deriving DecidableEq, Repr

def SpanError.message (error : SpanError) : String :=
  s!"invalid range [{error.start}, {error.stop})"

namespace Span

/-- The empty span at the beginning of a subject. -/
instance : Inhabited Span := ⟨⟨0, 0⟩⟩

/-- The span that stands for no place at all. -/
def unset : Span := ⟨-1, -1⟩

/-- A span with the given bounds, which have to be ordered and at least `-1`. -/
def ofBounds (start stop : Int) : Except SpanError Span :=
  if start > stop ∨ start < -1 ∨ stop < -1 then .error ⟨start, stop⟩
  else .ok ⟨start, stop⟩

def between (start stop : Nat) : Span := ⟨start, stop⟩

def single (offset : Nat) : Span := between offset (offset + 1)

def isSet (span : Span) : Bool := 0 ≤ span.start ∧ 0 ≤ span.stop

def length (span : Span) : Nat :=
  if span.isSet then (span.stop - span.start).toNat else 0

def isEmpty (span : Span) : Bool := span.length == 0

/-- The two bounds as offsets, where the span is set. -/
def offsets? (span : Span) : Option (Nat × Nat) :=
  if span.isSet then some (span.start.toNat, span.stop.toNat) else none

def render (span : Span) : String := s!"[{span.start}, {span.stop})"

@[simp] theorem isSet_between (start stop : Nat) : (between start stop).isSet = true := by
  simp [between, isSet]

@[simp] theorem offsets?_between (start stop : Nat) :
    (between start stop).offsets? = some (start, stop) := by
  simp [offsets?, between, isSet]

@[simp] theorem length_between (start stop : Nat) :
    (between start stop).length = stop - start := by
  rw [length, if_pos (isSet_between start stop)]
  simp only [between]
  omega

@[simp] theorem length_single (offset : Nat) : (single offset).length = 1 := by
  simp [single]

end Span

end PatternMatcher
