import TemplateScan.Cursor.Recorder
import TemplateScan.Recognizer

/-! # Generated parsers as hosts

A generated parser keeps its input as code numbers and lends its lexer to the recognizer for one
attempt at a time. The lexer stops at the end of input, moves the start of the token with every
skip, and has a slot for the symbol of the recognized kind.
-/

namespace TemplateScan

/-- The character that a code number of the parser stands for; U+FFFD where it stands for none. -/
def charOfCode (code : Int) : Char :=
  if 0 ≤ code ∧ code.toNat.isValidChar then Char.ofNat code.toNat else replacementChar

/-- What the symbol slot holds before an attempt. -/
def unsetSymbol : Nat :=
  65535

/-- A parser with its lexer. Positions are indices into the code numbers. -/
structure ParserHost where
  codes : Array Int
  /-- Everything in front of it has been consumed. -/
  host : Nat := 0
  /-- Start of the token; moved by every `skip`. -/
  start : Nat := 0
  /-- Where the attempt has got to. -/
  probe : Nat := 0
  /-- The end last committed to in the attempt. -/
  marked : Option Nat := none
  /-- The slot for the symbol of the recognized kind. -/
  symbol : Nat := unsetSymbol
  /-- The calls made on the lexer in the attempt. -/
  calls : Array CursorCall := #[]
deriving DecidableEq, Repr

namespace ParserHost

/-- A parser at the start of a text. -/
def ofText (text : String) : ParserHost :=
  { codes := (text.toList.map fun c => (c.toNat : Int)).toArray }

/-- The code number in front of the probe, zero at the end. -/
def code (p : ParserHost) : Int :=
  p.codes[p.probe]?.getD 0

/-- Has the probe reached the end? -/
def atEnd (p : ParserHost) : Bool :=
  p.codes.size ≤ p.probe

/-- Moves the probe by one unless it is at the end. -/
def move (p : ParserHost) : ParserHost :=
  if p.atEnd then p else { p with probe := p.probe + 1 }

/-- Takes a character into the token. -/
def advance (p : ParserHost) : ParserHost :=
  { p.move with calls := p.calls.push .advance }

/-- Leaves everything up to the next character out of the token. -/
def skip (p : ParserHost) : ParserHost :=
  let moved := p.move
  { moved with start := moved.probe, calls := p.calls.push .skip }

/-- Commits the token to end at the probe. -/
def markEnd (p : ParserHost) : ParserHost :=
  { p with marked := some p.probe, calls := p.calls.push .markEnd }

/-- Fills the symbol slot. -/
def setResult (p : ParserHost) (kind : TokenKind) : ParserHost :=
  { p with symbol := kind.symbol }

instance : Cursor ParserHost where
  lookahead p := charOfCode p.code
  atEnd := atEnd
  advance := advance
  skip := skip
  markEnd := markEnd
  setResult := setResult
  remaining p := p.codes.size - p.probe
  remaining_advance_lt p h := by
    simp only [advance, move, h, Bool.false_eq_true, ↓reduceIte]
    simp [atEnd] at h
    omega
  remaining_skip_lt p h := by
    simp only [skip, move, h, Bool.false_eq_true, ↓reduceIte]
    simp [atEnd] at h
    omega
  remaining_markEnd _ := rfl
  atEnd_markEnd _ := rfl

/-- Moves the parser over one code number, if one is left. -/
def step (p : ParserHost) : ParserHost :=
  if p.host < p.codes.size then { p with host := p.host + 1 } else p

/-- The calls of the attempt in order, one letter each. -/
def letters (p : ParserHost) : String :=
  String.ofList (p.calls.toList.map CursorCall.letter)

end ParserHost

end TemplateScan
