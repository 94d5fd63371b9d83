import TemplateScan.Source
import TemplateScan.Token

/-! # Templates

A template is a list of segments: literal text, block comments, and directives with what is known
about them. A source that cannot be segmented has a construct that is never closed.
-/

namespace TemplateScan

/-- A directive: its markers, what stands between them, and the comments found there. -/
structure Directive where
  /-- The opening marker. -/
  opening : Span
  /-- Everything between the markers, comments and blanks included. -/
  body : Span
  /-- The closing marker. -/
  closing : Span
  /-- Is the opening marker the one that trims the text in front of it? -/
  trimLeft : Bool
  /-- Is the closing marker the one that trims the text behind it? -/
  trimRight : Bool
  /-- The block comments in the body, in order. -/
  comments : List Span
deriving DecidableEq, Repr

namespace Directive

/-- From the start of the opening marker to the end of the closing one. -/
def span (directive : Directive) : Span :=
  directive.opening.merge directive.closing

/-- The body without the blanks at its ends. The source must be the one that was segmented. -/
def code (directive : Directive) (source : Source) : Checked String :=
  trimBlanks <$> source.cut directive.body

end Directive

/-- One piece of a template. -/
inductive Segment where
  /-- Literal text. -/
  | content (span : Span)
  /-- A block comment outside directives. -/
  | comment (span : Span)
  | directive (directive : Directive)
deriving DecidableEq, Repr

namespace Segment

/-- The bytes that a segment covers. -/
def span : Segment → Span
  | .content span => span
  | .comment span => span
  | .directive d => d.span

/-- A segment's name in listings. -/
def label : Segment → String
  | .content _ => "content"
  | .comment _ => "comment"
  | .directive _ => "directive"

/-- The segment that a token between directives makes. -/
def ofToken (token : Token) : Segment :=
  match token.kind with
  | .content => .content token.span
  | .comment => .comment token.span

/-- The directive, where the segment is one. -/
def directive? : Segment → Option Directive
  | .directive d => some d
  | _ => none

/-- The span of literal text, where the segment is such. -/
def content? : Segment → Option Span
  | .content span => some span
  | _ => none

/-- Is the segment a comment? -/
def isComment : Segment → Bool
  | .comment _ => true
  | _ => false

end Segment

/-- The segments of a source in order. -/
structure Template where
  segments : List Segment := []
deriving DecidableEq, Repr

namespace Template

/-- Number of segments. -/
def size (template : Template) : Nat :=
  template.segments.length

/-- Has the template no segments? -/
def isEmpty (template : Template) : Bool :=
  template.segments.isEmpty

/-- The directives in order. -/
def directives (template : Template) : List Directive :=
  template.segments.filterMap Segment.directive?

/-- The comments outside directives in order. -/
def comments (template : Template) : List Segment :=
  template.segments.filter Segment.isComment

/-- All literal text in order. The source must be the one that was segmented. -/
def contentText (template : Template) (source : Source) : Checked String :=
  String.join <$> (template.segments.filterMap Segment.content?).mapM source.cut

end Template

/-- Why a source cannot be segmented. -/
inductive TemplateError where
  /-- A block comment is open up to the end of the source. -/
  | unterminatedComment (span : Span)
  /-- A directive is open at the end of the source. -/
  | unterminatedDirective (opening : Span)
  /-- A quoted string in a directive is open up to the end of the source. -/
  | unterminatedString (span : Span)
deriving DecidableEq, Repr

namespace TemplateError

/-- Where the trouble is: from the start of a comment or a string to the end of the source, or the
opening marker of a directive. -/
def span : TemplateError → Span
  | .unterminatedComment span => span
  | .unterminatedDirective opening => opening
  | .unterminatedString span => span

/-- What is said about an error. -/
def message : TemplateError → String
  | .unterminatedComment span => "unterminated block comment starting at " ++ span.render
  | .unterminatedDirective opening => "directive opened at " ++ opening.render ++ " is never closed"
  | .unterminatedString span => "unterminated string literal starting at " ++ span.render

end TemplateError

end TemplateScan
