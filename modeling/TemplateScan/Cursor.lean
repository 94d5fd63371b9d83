import TemplateScan.Token

/-! # Cursors

What a recognizer needs of the host that it reads through: one character of lookahead, a probe to
move, and a place to report the end and the kind of a token. Each host keeps a measure of the
input in front of its probe, so that every loop over a cursor that moves while input is left comes
to an end.
-/

namespace TemplateScan

/-- A host that a recognizer can read through. -/
class Cursor (σ : Type) where
  /-- The character in front of the probe. At the end of input it is U+0000, so a character that
  is U+0000 can only be told from the end by `atEnd`. -/
  lookahead : σ → Char
  /-- Is the probe at the end of input? -/
  atEnd : σ → Bool
  /-- Move the probe over a character that belongs to the token. -/
  advance : σ → σ
  /-- Move the probe over a character in front of the token. -/
  skip : σ → σ
  /-- Commit the token to end at the probe. -/
  markEnd : σ → σ
  /-- Report the kind of the token. -/
  setResult : σ → TokenKind → σ
  /-- A bound on the moves that are left. -/
  remaining : σ → Nat
  /-- Where input is left, advancing uses some of it up. -/
  remaining_advance_lt : ∀ s, atEnd s = false → remaining (advance s) < remaining s
  /-- Where input is left, skipping uses some of it up. -/
  remaining_skip_lt : ∀ s, atEnd s = false → remaining (skip s) < remaining s
  /-- Committing to an end moves nothing. -/
  remaining_markEnd : ∀ s, remaining (markEnd s) = remaining s
  /-- Committing to an end does not bring input to its end. -/
  atEnd_markEnd : ∀ s, atEnd (markEnd s) = atEnd s

/-- The lookahead at the end of input. -/
def endChar : Char :=
  '\x00'

/-- What stands for a character that cannot be read. -/
def replacementChar : Char :=
  '\uFFFD'

end TemplateScan
