/-! # How deep patterns nest

A part of a pattern nests by a number of levels. Parts in a row, or beside each other, are one level
more than the deepest of them; a single part is no level more, and no part is none.
-/

namespace TemplateScan

namespace Pattern

/-- How deep parts nest together. -/
def nesting : List Nat → Nat
  | [] => 0
  | [depth] => depth
  | depths => depths.foldl max 0 + 1

/-- Two parts nest one level more than the deeper of them. -/
theorem nesting_pair (first second : Nat) : nesting [first, second] = max first second + 1 := by
  simp [nesting]

/-- Patterns may nest this deep. -/
def maxNesting : Nat :=
  250

end Pattern

end TemplateScan
