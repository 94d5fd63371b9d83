import TemplateScan.Text.CodePointSet

/-! # White space

The characters with the Unicode property `White_Space`, and texts without them at their ends.
-/

namespace TemplateScan

/-- The code points with the property `White_Space`. -/
def whiteSpace : CodePointSet where
  ranges :=
    [(0x9, 0xD), (0x20, 0x20), (0x85, 0x85), (0xA0, 0xA0), (0x1680, 0x1680), (0x2000, 0x200A),
      (0x2028, 0x2029), (0x202F, 0x202F), (0x205F, 0x205F), (0x3000, 0x3000)]

/-- Does a character have the property `White_Space`? -/
def isBlank (c : Char) : Bool :=
  whiteSpace.contains c

/-- Every character that core counts as white space is a blank. -/
theorem isBlank_of_isWhitespace {c : Char} (h : c.isWhitespace = true) : isBlank c = true := by
  simp only [Char.isWhitespace, Bool.or_eq_true, decide_eq_true_eq] at h
  rcases h with ((rfl | rfl) | rfl) | rfl <;> decide

/-- A text without the blanks at its start. -/
def trimStart (cs : List Char) : List Char :=
  cs.dropWhile isBlank

/-- A text without the blanks at its ends. -/
def trimEnds (cs : List Char) : List Char :=
  (trimStart (trimStart cs).reverse).reverse

/-- A text without the blanks at its ends. -/
def trimBlanks (text : String) : String :=
  String.ofList (trimEnds text.toList)

end TemplateScan
