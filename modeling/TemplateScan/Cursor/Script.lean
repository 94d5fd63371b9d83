import TemplateScan.Recognizer

/-! # Scripted recognizers

A script is a finite list of calls on a cursor followed by a verdict. Any recognizer makes, on a
given input, the calls of some script, so what holds for all scripts holds for all recognizers.
-/

namespace TemplateScan

/-- One line of a script. -/
inductive ScriptCall where
  | advance
  | skip
  | markEnd
  | setResult (kind : TokenKind)
  /-- Look at the character in front of the probe. -/
  | look
  /-- Look whether the probe is at the end. -/
  | atEnd
  /-- Run an attempt at a token and look whether it was accepted. -/
  | scan (offered : Offered)
deriving DecidableEq, Repr

/-- Something seen in the course of a script. -/
inductive Sighting where
  | char (c : Char)
  | flag (b : Bool)
deriving DecidableEq, Repr

/-- A list of calls and the verdict that follows them. -/
structure Script where
  calls : List ScriptCall
  accept : Bool
deriving DecidableEq, Repr

variable {σ : Type} [Cursor σ]

/-- Makes one call: what is seen by it, if anything, and the cursor after it. -/
def ScriptCall.run (s : σ) : ScriptCall → Option Sighting × σ
  | .advance => (none, Cursor.advance s)
  | .skip => (none, Cursor.skip s)
  | .markEnd => (none, Cursor.markEnd s)
  | .setResult kind => (none, Cursor.setResult s kind)
  | .look => (some (.char (Cursor.lookahead s)), s)
  | .atEnd => (some (.flag (Cursor.atEnd s)), s)
  | .scan offered =>
      let (accepted, s) := Recognizer.scan offered s
      (some (.flag accepted), s)

/-- Makes all calls in order: what is seen by them, and the cursor after them. -/
def ScriptCall.runAll (s : σ) : List ScriptCall → List Sighting × σ
  | [] => ([], s)
  | call :: calls =>
      let (seen, s) := call.run s
      let (more, s) := ScriptCall.runAll s calls
      (seen.toList ++ more, s)

end TemplateScan
