import TemplateScan.ParserHost

/-! # The recognizer as a plug-in

The entry points through which a generated parser creates a recognizer, saves and restores it, and
asks it for a token. Each of the things that the parser hands over may be missing.
-/

namespace TemplateScan

/-- The state that a recognizer keeps between attempts: none. -/
structure Scanner where
deriving DecidableEq, Repr

namespace Scanner

/-- A recognizer for a new parser. -/
def create : Scanner :=
  {}

/-- How a recognizer is shown. -/
def render (_scanner : Scanner) : String :=
  "UtlScanner"

/-- Writes the state into a buffer: the number of bytes written and the buffer after it. There is
no state, so the buffer stays as it is. -/
def serialize (_scanner : Scanner) (buffer : ByteArray) : Nat × ByteArray :=
  (0, buffer)

/-- Restores a state; whatever was written, the state is the only one there is. -/
def deserialize (_scanner : Scanner) (_bytes : ByteArray) : Scanner :=
  create

end Scanner

namespace Plugin

/-- The size of the buffer that a parser lends for serialization. -/
def bufferSize : Nat :=
  1024

/-- Creates a recognizer. It keeps no state, so there is nothing to hand over. -/
def create : Option Scanner :=
  none

/-- Writes the state into the buffer that was lent, if one was: the number of bytes written and
the buffer after it. -/
def serialize : Option ByteArray → Nat × Option ByteArray
  | none => (0, none)
  | some buffer =>
      let (written, buffer) := Scanner.create.serialize buffer
      (written, some buffer)

/-- Restores the state from the bytes that were lent; without bytes it is the initial one. -/
def deserialize (bytes : Option ByteArray) : Scanner :=
  Scanner.create.deserialize (bytes.getD ByteArray.empty)

/-- One attempt at a token through the parser's lexer, of the kinds whose flags are set. Without a
lexer or without flags it is refused and nothing is called. -/
def scan (lexer : Option ParserHost) (flags : Option (List Bool)) : Bool × Option ParserHost :=
  match lexer, flags with
  | some p, some flags =>
      let (accepted, p) := Recognizer.scan (Offered.ofFlags (flags.take TokenKind.all.length)) p
      (accepted, some p)
  | lexer, _ => (false, lexer)

end Plugin

namespace ParserHost

/-- Starts an attempt at the place the parser has consumed up to. -/
def beginAttempt (p : ParserHost) : ParserHost :=
  { codes := p.codes, host := p.host, start := p.host, probe := p.host }

/-- After an accepted attempt the parser has consumed up to the end committed to, or up to the
probe without one. -/
def settle (p : ParserHost) : ParserHost :=
  { p with host := p.marked.getD p.probe }

/-- One attempt at a token. The parser may fail to hand over its lexer or its flags. -/
def attempt (p : ParserHost) (lendsLexer : Bool) (flags : Option (List Bool)) :
    Bool × ParserHost :=
  let begun := p.beginAttempt
  match Plugin.scan (if lendsLexer then some begun else none) flags with
  | (true, some after) => (true, after.settle)
  | (accepted, after) => (accepted, after.getD begun)

end ParserHost

end TemplateScan
