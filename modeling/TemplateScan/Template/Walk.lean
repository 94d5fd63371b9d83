import TemplateScan.Lexer
import TemplateScan.Log.Event
import TemplateScan.Source.QuotedString
import TemplateScan.Template
import TemplateScan.Template.Marker

/-! # Walks over a source

A walk goes over a source turn by turn and drives the recognizer. Between directives it takes
tokens of both kinds; what is refused there is the opening of a directive, an unterminated comment,
or a slash that starts no comment and is attempted again as literal text. In a directive it takes
comments, steps over blanks, strings and single characters, and looks for the closing marker.
-/

namespace TemplateScan

/-- A directive whose closing marker has not been reached. -/
structure OpenDirective where
  opening : Span
  trimLeft : Bool
  comments : Array Span := #[]
deriving DecidableEq, Repr

/-- The directive that a closing marker makes of an open one. -/
def OpenDirective.close (d : OpenDirective) (closing : Span) (trimRight : Bool) : Directive where
  opening := d.opening
  body := ⟨d.opening.stop, closing.start⟩
  closing := closing
  trimLeft := d.trimLeft
  trimRight := trimRight
  comments := d.comments.toList

/-- The state of a walk: the host, the directive it is in, and what it has produced so far. -/
structure Walk (source : Source) where
  lexer : Lexer source := {}
  pending : Option OpenDirective := none
  segments : Array Segment := #[]
  events : Array Event := #[]
deriving DecidableEq, Repr

/-- What one turn of a walk comes to. -/
inductive Turn (source : Source) where
  /-- The walk goes on. -/
  | next (walk : Walk source)
  /-- The source has been segmented. -/
  | finished (walk : Walk source)
  /-- The source cannot be segmented. -/
  | failed (error : TemplateError) (walk : Walk source)

namespace Walk

variable {source : Source}

/-- Adds an event to the log. -/
def note (w : Walk source) (event : Event) : Walk source :=
  { w with events := w.events.push event }

/-- Adds a segment to the template. -/
def push (w : Walk source) (segment : Segment) : Walk source :=
  { w with segments := w.segments.push segment }

/-- An attempt at a token, with its line in the log. -/
def scan (w : Walk source) (offered : Offered) : Option Token × Walk source :=
  let (token, lexer) := w.lexer.scan offered
  (token, { w with lexer := lexer }.note (.scanned w.lexer.offset offered token))

/-- Moves the host to an offset. -/
def moveTo (w : Walk source) (offset : Nat) : Checked (Walk source) := do
  return { w with lexer := ← w.lexer.setOffset offset }

/-- Moves the host over one character. -/
def moveOver (w : Walk source) : Checked (Walk source) := do
  return { w with lexer := ← w.lexer.bumpChar }

/-- The turn in which a directive is opened. -/
def openDirective (w : Walk source) : Checked (Turn source) := do
  let trimLeft := w.lexer.startsWith Marker.directiveOpenTrim
  let opening : Span := ⟨w.lexer.offset, w.lexer.offset + if trimLeft then 3 else 2⟩
  let w ← w.moveTo opening.stop
  let w := w.note (.directiveOpened opening trimLeft)
  return .next { w with pending := some { opening := opening, trimLeft := trimLeft } }

/-- The turn in which a directive is closed by a marker of 2 or 3 bytes. -/
def closeDirective (w : Walk source) (d : OpenDirective) (width : Nat) : Checked (Turn source) := do
  let closing : Span := ⟨w.lexer.offset, w.lexer.offset + width⟩
  let w ← w.moveTo closing.stop
  let w := w.note (.directiveClosed closing d.comments.size)
  let w := w.push (.directive (d.close closing (width == 3)))
  return .next { w with pending := none }

/-- The turn in which a slash that starts no comment is attempted again as literal text. -/
def rescanSlash (w : Walk source) : Checked (Turn source) :=
  match (w.note (.slashRescanned w.lexer.offset)).scan (.only .content) with
  | (some token, w) => .ok (.next (w.push (.content token.span)))
  | (none, w) => .next <$> w.moveOver

/-- One turn between directives. -/
def stepOutside (w : Walk source) : Checked (Turn source) :=
  if w.lexer.isAtEnd then
    .ok (.finished w)
  else
    match w.scan .everything with
    | (some token, w) => .ok (.next (w.push (.ofToken token)))
    | (none, w) =>
        if w.lexer.startsWith Marker.directiveOpen then
          w.openDirective
        else if w.lexer.startsWith Marker.commentOpen then
          .ok (.failed (.unterminatedComment w.lexer.spanToEnd) w)
        else
          w.rescanSlash

/-- The width of the closing marker in front of the host, if there is one. -/
def closeWidth? (w : Walk source) : Option Nat :=
  if w.lexer.startsWith Marker.directiveCloseTrim then some 3
  else if w.lexer.startsWith Marker.directiveClose then some 2
  else none

/-- The turn in which a quoted string is stepped over. -/
def stepString (w : Walk source) (quote : UInt8) : Checked (Turn source) := do
  match ← source.stringEnd quote (w.lexer.offset + 1) with
  | some stop => return .next (← w.moveTo stop)
  | none => return .failed (.unterminatedString w.lexer.spanToEnd) w

/-- One turn in a directive at a place where no comment can be taken and no blank stands. -/
def stepCode (w : Walk source) (d : OpenDirective) : Checked (Turn source) :=
  match w.lexer.peek? with
  | none => .ok (.failed (.unterminatedDirective d.opening) w)
  | some c =>
      match w.closeWidth? with
      | some width => w.closeDirective d width
      | none =>
          if w.lexer.startsWith Marker.commentOpen then
            .ok (.failed (.unterminatedComment w.lexer.spanToEnd) w)
          else if c = '\x22' ∨ c = '\x27' then
            w.stepString c.toUInt8
          else
            .next <$> w.moveOver

/-- One turn in a directive. -/
def stepInside (w : Walk source) (d : OpenDirective) : Checked (Turn source) :=
  match w.scan (.only .comment) with
  | (some token, w) =>
      .ok (.next { w with pending := some { d with comments := d.comments.push token.span } })
  | (none, w) => do
      let w ← w.moveTo (source.skipBlanks w.lexer.offset)
      w.stepCode d

/-- One turn of a walk. -/
def step (w : Walk source) : Checked (Turn source) :=
  match w.pending with
  | none => w.stepOutside
  | some d => w.stepInside d

end Walk

end TemplateScan
