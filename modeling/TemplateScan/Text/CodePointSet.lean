/-! # Sets of code points

A property of characters is given by the ranges of the code points that have it.
-/

namespace TemplateScan

/-- Is a number in one of some ranges? The ranges are in increasing order, so those behind the first
one that starts later need not be looked at. -/
def inRanges (n : Nat) : List (Nat × Nat) → Bool
  | [] => false
  | (first, last) :: ranges => first ≤ n && (n ≤ last || inRanges n ranges)

/-- Of ranges in increasing order, a number is in one of those looked at if it is in any. -/
theorem inRanges_eq_any {n : Nat} {ranges : List (Nat × Nat)}
    (ordered : ranges.Pairwise fun range later => range.1 ≤ later.1) :
    inRanges n ranges = ranges.any fun range => range.1 ≤ n && n ≤ range.2 := by
  induction ranges with
  | nil => rfl
  | cons range ranges ih =>
      obtain ⟨starts, ordered⟩ := List.pairwise_cons.1 ordered
      simp only [inRanges, List.any_cons, ih ordered]
      by_cases reached : range.1 ≤ n
      · simp [reached]
      · have later : (ranges.any fun range => range.1 ≤ n && n ≤ range.2) = false := by
          simp only [List.any_eq_false, Bool.and_eq_true, decide_eq_true_eq, not_and]
          intro other member
          have := starts other member
          omega
        simp [reached, later]

/-- The code points with some property: the first and the last one of each range of them, in
increasing order. -/
structure CodePointSet where
  ranges : List (Nat × Nat)
deriving DecidableEq, Repr

/-- Is a character in the set? -/
def CodePointSet.contains (set : CodePointSet) (c : Char) : Bool :=
  inRanges c.toNat set.ranges

end TemplateScan
