import TemplateScan.Source
import TemplateScan.Token

/-! # Events

What is worth a line in the log: a level, the part of the program that it comes from, a message,
and named values. An entry of the log is an event, or the begin or the end of the stretch in which
one source is segmented.
-/

namespace TemplateScan

/-- How much an event matters, least first. -/
inductive Level where
  | trace
  | debug
  | info
  | warn
  | error
deriving DecidableEq, Repr

namespace Level

/-- How many levels matter at least as much as a level. -/
def verbosity : Level → Nat
  | .trace => 5
  | .debug => 4
  | .info => 3
  | .warn => 2
  | .error => 1

/-- The name of a level in log lines. -/
def label : Level → String
  | .trace => "TRACE"
  | .debug => "DEBUG"
  | .info => "INFO"
  | .warn => "WARN"
  | .error => "ERROR"

end Level

/-- Something that happened. -/
inductive Event where
  /-- An attempt at a token at an offset, with its outcome. -/
  | scanned (offset : Nat) (offered : Offered) (token : Option Token)
  /-- A source has an encoding issue. -/
  | encodingIssue (issue : EncodingIssue)
  /-- A directive was opened. -/
  | directiveOpened (opening : Span) (trimLeft : Bool)
  /-- A directive with a number of comments was closed. -/
  | directiveClosed (closing : Span) (comments : Nat)
  /-- A slash that starts no comment is attempted again as literal text. -/
  | slashRescanned (offset : Nat)
  /-- A source was segmented into a number of segments. -/
  | segmented (segments : Nat)
  /-- Several files are processed by workers. -/
  | filesInParallel (files : Nat) (jobs : Option Nat)
deriving DecidableEq, Repr

/-- A truth value as log lines show it. -/
def renderFlag : Bool → String
  | true => "true"
  | false => "false"

/-- A number that may be missing as log lines show it. -/
def renderCount : Option Nat → String
  | none => "None"
  | some count => "Some(" ++ toString count ++ ")"

/-- Where events of the in-memory host come from. -/
def lexerTarget : String :=
  "utl_scanner::cursor"

/-- Where events of segmentation come from. -/
def segmenterTarget : String :=
  "utl_template::segmenter"

/-- Where events of the command line come from. -/
def commandTarget : String :=
  "utlc::commands"

namespace Event

/-- How much an event matters. -/
def level : Event → Level
  | .scanned .. => .trace
  | .encodingIssue _ => .warn
  | _ => .debug

/-- The part of the program that an event comes from. -/
def target : Event → String
  | .scanned .. => lexerTarget
  | .filesInParallel .. => commandTarget
  | _ => segmenterTarget

/-- The text of an event. -/
def message : Event → String
  | .scanned .. => "external scan"
  | .encodingIssue _ => "encoding issue in template"
  | .directiveOpened .. => "directive opened"
  | .directiveClosed .. => "directive closed"
  | .slashRescanned _ => "slash at top level, rescanning as content"
  | .segmented _ => "template segmented"
  | .filesInParallel .. => "processing files in parallel"

/-- The named values of an event in the order in which they are written. -/
def fields : Event → List (String × String)
  | .scanned offset offered token =>
      [("offset", toString offset), ("valid", offered.render),
        ("token", Token.renderOption token)]
  | .encodingIssue issue => [("kind", issue.kind.label), ("span", issue.span.render)]
  | .directiveOpened opening trimLeft =>
      [("open", opening.render), ("trim_left", renderFlag trimLeft)]
  | .directiveClosed closing comments =>
      [("close", closing.render), ("comments", toString comments)]
  | .slashRescanned offset => [("offset", toString offset)]
  | .segmented segments => [("segments", toString segments)]
  | .filesInParallel files jobs => [("files", toString files), ("jobs", renderCount jobs)]

/-- Does an event have a value of the given name? Its text counts as one. -/
def hasField (event : Event) (name : String) : Bool :=
  name == "message" || event.fields.any (·.1 == name)

end Event

/-- A line or a bracket of the log. -/
inductive LogEntry where
  /-- Segmentation of a source of this many bytes begins. -/
  | opened (size : Nat)
  | event (event : Event)
  /-- Segmentation of a source is over. -/
  | closed
deriving DecidableEq, Repr

/-- The stretch of the log in which one source is segmented. -/
def LogEntry.bracket (size : Nat) (events : List Event) : List LogEntry :=
  .opened size :: events.map .event ++ [.closed]

/-- The name of the stretch in which one source is segmented. -/
def stretchName : String :=
  "segment"

/-- The level of the stretch in which one source is segmented. -/
def stretchLevel : Level :=
  .debug

/-- The named values of the stretch in which a source of `size` bytes is segmented. -/
def stretchFields (size : Nat) : List (String × String) :=
  [("len", toString size)]

end TemplateScan
