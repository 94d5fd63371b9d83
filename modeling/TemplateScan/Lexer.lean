import TemplateScan.Cursor.Script
import TemplateScan.Source

/-! # Lexers

The host for sources in memory. A lexer keeps four positions apart: the offset up to which the
host has consumed the source, the start of the token being attempted, the probe that a recognizer
moves, and the end that it has committed to. The offset only moves when an attempt is accepted,
and then to the committed end; a refused attempt leaves nothing but a stray probe.
-/

namespace TemplateScan

/-- The number of bytes of the character that starts with a given byte; one for a byte that starts
none. -/
def leadWidth (lead : UInt8) : Nat :=
  if 0xC0 ≤ lead ∧ lead ≤ 0xDF then 2
  else if 0xE0 ≤ lead ∧ lead ≤ 0xEF then 3
  else if 0xF0 ≤ lead ∧ lead ≤ 0xF7 then 4
  else 1

theorem leadWidth_pos (lead : UInt8) : 0 < leadWidth lead := by
  unfold leadWidth
  repeat' split
  all_goals omega

/-- Host offsets are kept within this bound when they are moved forward by a given distance. -/
def maxOffset : Nat :=
  4294967295

/-- The positions of a host that reads `source`. They are plain data: that they lie in the source
is kept by the operations. -/
structure Lexer (source : Source) where
  /-- Everything in front of it has been consumed. -/
  offset : Nat := 0
  /-- Start of the token; moved by `skip` until the first `advance`. -/
  start : Nat := 0
  /-- Where the attempt has got to. -/
  probe : Nat := 0
  /-- The end last committed to in the attempt. -/
  marked : Option Nat := none
  /-- Has the attempt advanced, and not only skipped? -/
  advanced : Bool := false
  /-- The kind reported in the attempt. -/
  result : Option TokenKind := none
deriving DecidableEq, Repr

namespace Lexer

variable {source : Source}

/-! ### The host's side -/

/-- Has the host consumed the whole source? -/
def isAtEnd (l : Lexer source) : Bool :=
  source.size ≤ l.offset

/-- Moves the host to an offset, which must not lie behind the end. -/
def setOffset (l : Lexer source) (offset : Nat) : Checked (Lexer source) :=
  if offset ≤ source.size then .ok { l with offset := offset }
  else .error (.offsetPastEnd offset source.size)

/-- Moves the host forward by a number of bytes, as far as offsets reach. -/
def bump (l : Lexer source) (bytes : Nat) : Checked (Lexer source) :=
  l.setOffset (min (l.offset + bytes) maxOffset)

/-- The width of the character at an offset, as its first byte tells it, within the source. -/
def widthAt (source : Source) (offset : Nat) : Nat :=
  min (leadWidth (source.byteAt offset)) (source.size - offset)

theorem widthAt_pos {offset : Nat} (h : offset < source.size) : 0 < widthAt source offset := by
  have := leadWidth_pos (source.byteAt offset)
  unfold widthAt
  omega

/-- Moves the host over one character, if one is left. -/
def bumpChar (l : Lexer source) : Checked (Lexer source) :=
  if l.isAtEnd then .ok l else l.setOffset (l.offset + widthAt source l.offset)

/-- What the host has not consumed. -/
def rest (l : Lexer source) : String :=
  source.slice ⟨l.offset, source.size⟩

/-- The first character of what the host has not consumed. -/
def peek? (l : Lexer source) : Option Char :=
  source.charAt? l.offset

/-- Does what the host has not consumed start with the given characters? -/
def startsWith (l : Lexer source) (marker : List Char) : Bool :=
  source.hasAt l.offset marker

/-- From the host's offset to the end. -/
def spanToEnd (l : Lexer source) : Span :=
  ⟨l.offset, source.size⟩

/-! ### The recognizer's side -/

/-- Has the probe reached the end? -/
def probeAtEnd (l : Lexer source) : Bool :=
  source.size ≤ l.probe

/-- The character in front of the probe: U+0000 at the end, U+FFFD inside a character. -/
def lookahead (l : Lexer source) : Char :=
  if l.probeAtEnd then endChar else (source.charAt? l.probe).getD replacementChar

/-- Moves the probe over one character, if one is left. -/
def consume (l : Lexer source) : Lexer source :=
  if l.probe < source.size then { l with probe := l.probe + widthAt source l.probe } else l

/-- Takes a character into the token. -/
def advance (l : Lexer source) : Lexer source :=
  { l.consume with advanced := true }

/-- Leaves a character in front of the token, unless the token has already begun. -/
def skip (l : Lexer source) : Lexer source :=
  let moved := l.consume
  if moved.advanced then moved else { moved with start := moved.probe }

/-- Commits the token to end at the probe. -/
def markEnd (l : Lexer source) : Lexer source :=
  { l with marked := some l.probe }

/-- Reports the kind of the token. -/
def setResult (l : Lexer source) (kind : TokenKind) : Lexer source :=
  { l with result := some kind }

@[simp] theorem marked_consume (l : Lexer source) : l.consume.marked = l.marked := by
  unfold consume; split <;> rfl

@[simp] theorem offset_consume (l : Lexer source) : l.consume.offset = l.offset := by
  unfold consume; split <;> rfl

@[simp] theorem advanced_consume (l : Lexer source) : l.consume.advanced = l.advanced := by
  unfold consume; split <;> rfl

/-- Consuming moves the probe forward where input is left. -/
theorem lt_probe_consume {l : Lexer source} (h : l.probe < source.size) :
    l.probe < l.consume.probe := by
  have := widthAt_pos h
  simp only [consume, h, ↓reduceIte]
  omega

/-- Consuming never moves the probe back. -/
theorem le_probe_consume (l : Lexer source) : l.probe ≤ l.consume.probe := by
  unfold consume
  split
  · exact Nat.le_add_right _ _
  · exact Nat.le_refl _

@[simp] theorem probe_skip (l : Lexer source) : l.skip.probe = l.consume.probe := by
  unfold skip; dsimp only; split <;> rfl

@[simp] theorem offset_skip (l : Lexer source) : l.skip.offset = l.offset := by
  unfold skip; dsimp only; split <;> simp

instance : Cursor (Lexer source) where
  lookahead := lookahead
  atEnd := probeAtEnd
  advance := advance
  skip := skip
  markEnd := markEnd
  setResult := setResult
  remaining l := source.size - l.probe
  remaining_advance_lt l h := by
    have hprobe : l.probe < source.size := by simpa [probeAtEnd] using h
    have := lt_probe_consume hprobe
    simp only [advance]
    omega
  remaining_skip_lt l h := by
    have hprobe : l.probe < source.size := by simpa [probeAtEnd] using h
    have := lt_probe_consume hprobe
    rw [probe_skip]
    omega
  remaining_markEnd _ := rfl
  atEnd_markEnd _ := rfl

/-! ### Attempts at a token -/

/-- Starts an attempt at the host's offset; nothing of an earlier attempt is left. -/
def beginAttempt (l : Lexer source) : Lexer source :=
  { offset := l.offset, start := l.offset, probe := l.offset }

/-- Ends an accepted attempt. The token reaches from its start to the end committed to, or to the
probe without one, and the host moves there. Without a kind the attempt counts as refused. -/
def finish (l : Lexer source) : Option Token × Lexer source :=
  match l.result with
  | none => (none, l)
  | some kind =>
      let stop := l.marked.getD l.probe
      (some ⟨kind, ⟨min l.start stop, stop⟩⟩, { l with offset := stop })

/-- One attempt at a token by any recognizer. -/
def attempt (l : Lexer source) (recognizer : Lexer source → Bool × Lexer source) :
    Option Token × Lexer source :=
  match recognizer l.beginAttempt with
  | (true, l) => l.finish
  | (false, l) => (none, l)

/-- One attempt at a token of an offered kind. -/
def scan (l : Lexer source) (offered : Offered) : Option Token × Lexer source :=
  l.attempt (Recognizer.scan offered)

/-- One attempt at a token by a script: what the script saw, and the outcome. -/
def play (l : Lexer source) (script : Script) : List Sighting × Option Token × Lexer source :=
  let (seen, l) := ScriptCall.runAll l.beginAttempt script.calls
  if script.accept then (seen, l.finish) else (seen, none, l)

end Lexer

end TemplateScan
