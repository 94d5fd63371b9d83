import TemplateScan.Cursor

/-! # Recording cursors

A cursor over a list of characters that writes down every call made on it. Its probe moves on even
behind the end, so a recognizer that moves where no input is left can be seen to do so.
-/

namespace TemplateScan

/-- A call on a cursor. -/
inductive CursorCall where
  | advance
  | skip
  | markEnd
  | setResult (kind : TokenKind)
deriving DecidableEq, Repr

/-- The letter by which a call is written. -/
def CursorCall.letter : CursorCall → Char
  | .advance => 'a'
  | .skip => 's'
  | .markEnd => 'm'
  | .setResult _ => 'r'

/-- A cursor over characters with the calls made on it and the ends committed so far. -/
structure Recorder where
  chars : Array Char
  probe : Nat := 0
  calls : Array CursorCall := #[]
  marks : Array Nat := #[]
deriving DecidableEq, Repr

namespace Recorder

/-- A recorder at the start of a text. -/
def ofText (text : String) : Recorder :=
  { chars := text.toList.toArray }

/-- The character in front of the probe, U+0000 behind the end. -/
def lookahead (r : Recorder) : Char :=
  r.chars[r.probe]?.getD endChar

/-- Has the probe reached the end? -/
def atEnd (r : Recorder) : Bool :=
  r.chars.size ≤ r.probe

/-- Moves the probe by one, and writes down how. -/
def move (r : Recorder) (call : CursorCall) : Recorder :=
  { r with probe := r.probe + 1, calls := r.calls.push call }

/-- Writes down the probe as an end of the token. -/
def markEnd (r : Recorder) : Recorder :=
  { r with marks := r.marks.push r.probe, calls := r.calls.push .markEnd }

/-- Writes down the kind that was reported. -/
def setResult (r : Recorder) (kind : TokenKind) : Recorder :=
  { r with calls := r.calls.push (.setResult kind) }

instance : Cursor Recorder where
  lookahead := lookahead
  atEnd := atEnd
  advance r := r.move .advance
  skip r := r.move .skip
  markEnd := markEnd
  setResult := setResult
  remaining r := r.chars.size - r.probe
  remaining_advance_lt r h := by simp [atEnd, move] at h ⊢; omega
  remaining_skip_lt r h := by simp [atEnd, move] at h ⊢; omega
  remaining_markEnd _ := rfl
  atEnd_markEnd _ := rfl

/-- The calls in order, one letter each. -/
def letters (r : Recorder) : String :=
  String.ofList (r.calls.toList.map CursorCall.letter)

end Recorder

end TemplateScan
