import TemplateScan.Pattern.Modes

/-! # Atoms of a pattern

The least parts of a pattern: a character that stands for itself, or one behind a backslash that
stands for something else. Classes of characters and the other case of a letter, where they would
take tables of all scripts, are not to be had; nor is what could match part of a character.
-/

namespace TemplateScan

namespace Pattern

/-- A least part of a pattern. -/
inductive Atom where
  /-- A character, which may be written as the number of a byte. -/
  | literal (c : Char) (isByte : Bool)
  /-- The digits, the blanks or the characters of words, or all others. -/
  | shorthand (negated : Bool)
  /-- The start or the end of the text. -/
  | anchor
  /-- A place where a word starts or ends, or one where none does. -/
  | wordBoundary
deriving DecidableEq, Repr

namespace Atom

/-- The value of a hexadecimal digit. -/
def hexDigit? (c : Char) : Option Nat :=
  if c.isDigit then some (c.toNat - '0'.toNat)
  else if 'a' ≤ c ∧ c ≤ 'f' then some (c.toNat - 'a'.toNat + 10)
  else if 'A' ≤ c ∧ c ≤ 'F' then some (c.toNat - 'A'.toNat + 10)
  else none

/-- Reads a number of hexadecimal digits behind the given value. -/
def readDigits (modes : Modes) : (width value : Nat) → List Char → Option (Nat × List Char)
  | 0, value, cs => some (value, cs)
  | _ + 1, _, [] => none
  | width + 1, value, c :: cs => do
      let digit ← hexDigit? c
      readDigits modes width (16 * value + digit) (modes.skip cs)

/-- Reads a character that is written as its code point. -/
def readCodePoint (modes : Modes) (width : Nat) (isByte : Bool) (cs : List Char) :
    Option (Atom × List Char) := do
  let (value, rest) ← readDigits modes width 0 (modes.skip cs)
  if value.isValidChar then some (.literal (Char.ofNat value) isByte, rest) else none

/-- Reads what stands behind a backslash. Of the letters and digits only some have a meaning; any
other character of ASCII stands for itself. Named classes have no meaning, for they would take
tables, and neither have numbers in braces: in the place where a pattern stands, no brace is ever
closed. -/
def readEscaped (modes : Modes) : List Char → Option (Atom × List Char)
  | [] => none
  | c :: cs =>
      match c with
      | 'x' => readCodePoint modes 2 true cs
      | 'u' => readCodePoint modes 4 false cs
      | 'U' => readCodePoint modes 8 false cs
      | 'd' | 's' | 'w' => some (.shorthand false, cs)
      | 'D' | 'S' | 'W' => some (.shorthand true, cs)
      | 'a' => some (.literal '\x07' false, cs)
      | 'f' => some (.literal '\x0c' false, cs)
      | 't' => some (.literal '\t' false, cs)
      | 'n' => some (.literal '\n' false, cs)
      | 'r' => some (.literal '\r' false, cs)
      | 'v' => some (.literal '\x0b' false, cs)
      | 'A' | 'z' => some (.anchor, cs)
      | 'b' | 'B' | '<' | '>' => some (.wordBoundary, cs)
      | _ => if c.toNat < 0x80 && !c.isAlphanum then some (.literal c false, cs) else none

/-- Is an atom admitted by itself? -/
def isAdmitted (modes : Modes) : Atom → Bool
  | .literal c isByte =>
      if modes.unicode then !modes.ignoreCase else !(isByte && decide (0x80 ≤ c.toNat))
  | .shorthand negated => !modes.unicode && !negated
  | .anchor => true
  | .wordBoundary => true

/-- Is an atom admitted as a member of a class? -/
def isMember (modes : Modes) : Atom → Bool
  | .literal c _ => if modes.unicode then !modes.ignoreCase else decide (c.toNat < 0x80)
  | .shorthand negated => !modes.unicode && !negated
  | .anchor => false
  | .wordBoundary => false

end Atom

end Pattern

end TemplateScan
