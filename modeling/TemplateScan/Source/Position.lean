import TemplateScan.Source

/-! # Lines and columns

The place of a byte offset as people count it: lines and characters within a line, both from one.
-/

namespace TemplateScan

/-- A line and a column, both counted from one. -/
structure Position where
  line : Nat
  column : Nat
deriving DecidableEq, Repr

namespace Source

/-- The last character boundary at or before an offset. -/
def floorBoundary (source : Source) : Nat → Nat
  | 0 => 0
  | offset + 1 =>
      if source.isBoundary (offset + 1) then offset + 1 else source.floorBoundary offset

/-- The place of an offset. One behind the end counts as the end, and one inside a character as
the start of that character. -/
def position (source : Source) (offset : Nat) : Position :=
  let before := (source.slice ⟨0, source.floorBoundary (min offset source.size)⟩).toList
  let lastLine := before.reverse.takeWhile (· != '\n')
  ⟨before.count '\n' + 1, lastLine.length + 1⟩

/-- Going back to a boundary never goes forward. -/
theorem floorBoundary_le (source : Source) (offset : Nat) :
    source.floorBoundary offset ≤ offset := by
  induction offset with
  | zero => exact Nat.le_refl 0
  | succ offset ih => rw [floorBoundary]; split <;> omega

end Source

end TemplateScan
