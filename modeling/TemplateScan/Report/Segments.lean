import TemplateScan.CommandLine.Failure
import TemplateScan.Template.Segmentation
import TemplateScan.Text.Quoted

/-! # Segment listings

A header with the name of the file and the number of segments, then a line for each segment: where
it starts, what it is, its span, and for a directive its code in quotes and the number of its
comments. The code is quoted, so a line stays a line.
-/

namespace TemplateScan

namespace Report

/-- A text filled up with spaces on the right to a width. -/
def padRight (width : Nat) (text : String) : String :=
  text ++ String.ofList (List.replicate (width - text.length) ' ')

/-- What a line says about a directive beyond its place. -/
def directiveNote (source : Source) (directive : Directive) : Checked String := do
  let code ← directive.code source
  let comments :=
    if directive.comments.isEmpty then ""
    else " (" ++ toString directive.comments.length ++ " comments)"
  return " " ++ quoted code ++ comments

/-- The line of a segment. -/
def segmentLine (source : Source) (segment : Segment) : Checked String := do
  let place := source.position segment.span.start
  let note ← match segment with
    | .directive d => directiveNote source d
    | _ => pure ""
  return "  " ++ toString place.line ++ ":" ++ toString place.column ++ " " ++
    padRight 9 segment.label ++ " " ++ segment.span.render ++ note ++ "\n"

/-- The listing of a file's segments. -/
def segmentListing (path : String) (source : Source) (template : Template) : Checked String := do
  let lines ← template.segments.mapM (segmentLine source)
  return "Segments for '" ++ path ++ "' (" ++ toString template.size ++ " segments):\n" ++
    String.join lines

/-- The failure of a file that cannot be segmented: the place is where the trouble starts. -/
def templateFailure (path : String) (source : Source) (error : TemplateError) : Failure :=
  .template path (source.position error.span.start) error

/-- What a segmentation comes to for a file: its listing, or its failure. -/
def ofOutcome (path : String) (source : Source) (outcome : Except TemplateError Template) :
    Checked (Except Failure String) :=
  match outcome with
  | .ok template => .ok <$> segmentListing path source template
  | .error error => .ok (.error (templateFailure path source error))

/-- The listing of the segments of a source, or its failure. -/
def segments (path : String) (source : Source) : Checked (Except Failure String) := do
  ofOutcome path source (← source.segment)

end Report

end TemplateScan
