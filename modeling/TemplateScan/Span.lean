/-! # Spans

Half-open byte ranges of a source, and the ways in which a position or a range can be misused.
-/

namespace TemplateScan

/-- The half-open byte range from `start` up to `stop`. A span is plain data: nothing keeps it
inside a source, or its ends in order. -/
structure Span where
  start : Nat := 0
  stop : Nat := 0
deriving DecidableEq, Repr, Inhabited

/-- A broken promise of a caller. No operation goes on after one. -/
inductive Fault where
  /-- A host offset was to be moved behind the end of a source of `size` bytes. -/
  | offsetPastEnd (wanted size : Nat)
  /-- The length of a span was asked for whose end lies before its start. -/
  | invertedSpan
  /-- Text was cut out of range, with its ends reversed, or inside a character. -/
  | misplacedCut
deriving DecidableEq, Repr

/-- The outcome of an operation that relies on a promise of its caller. -/
abbrev Checked (α : Type) := Except Fault α

/-- What is said about a fault, where anything is. -/
def Fault.message? : Fault → Option String
  | .offsetPastEnd wanted size =>
      some ("offset " ++ toString wanted ++ " past end of source (" ++ toString size ++ ")")
  | .invertedSpan => some "attempt to subtract with overflow"
  | .misplacedCut => none

namespace Span

/-- The empty span at an offset. -/
def point (offset : Nat) : Span :=
  ⟨offset, offset⟩

/-- Number of bytes, for a span whose ends are in order. -/
def length (span : Span) : Checked Nat :=
  if span.start ≤ span.stop then .ok (span.stop - span.start) else .error .invertedSpan

/-- A span is empty when its ends coincide, so a reversed one is not. -/
def isEmpty (span : Span) : Bool :=
  span.start == span.stop

/-- Does `outer` reach at least as far as `inner` on both sides? -/
def contains (outer inner : Span) : Bool :=
  outer.start ≤ inner.start && inner.stop ≤ outer.stop

/-- The least span that reaches as far as both. -/
def merge (left right : Span) : Span :=
  ⟨min left.start right.start, max left.stop right.stop⟩

/-- A span moved forward by a number of bytes. -/
def shift (span : Span) (bytes : Nat) : Span :=
  ⟨span.start + bytes, span.stop + bytes⟩

/-- A span is written as its ends with two dots between them. -/
def render (span : Span) : String :=
  toString span.start ++ ".." ++ toString span.stop

@[simp] theorem point_isEmpty (offset : Nat) : (point offset).isEmpty = true := by
  simp [point, isEmpty]

/-- A merged span reaches as far as its left part. -/
theorem merge_contains_left (left right : Span) : (left.merge right).contains left = true := by
  rw [contains, Bool.and_eq_true]
  exact ⟨decide_eq_true (Nat.min_le_left _ _), decide_eq_true (Nat.le_max_left _ _)⟩

/-- A merged span reaches as far as its right part. -/
theorem merge_contains_right (left right : Span) : (left.merge right).contains right = true := by
  rw [contains, Bool.and_eq_true]
  exact ⟨decide_eq_true (Nat.min_le_right _ _), decide_eq_true (Nat.le_max_right _ _)⟩

end Span

end TemplateScan
