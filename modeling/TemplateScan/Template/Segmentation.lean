import TemplateScan.Template.Walk.Progress

/-! # Segmenting a source

A walk is taken turn by turn to its end. Each turn moves the host forward, so there is an end.
-/

namespace TemplateScan

namespace Walk

variable {source : Source}

/-- Takes turns until the source is segmented or cannot be. -/
def run (w : Walk source) : Checked (Except TemplateError Unit × Walk source) :=
  match _hstep : w.step with
  | .error fault => .error fault
  | .ok (.next w) => w.run
  | .ok (.finished w) => .ok (.ok (), w)
  | .ok (.failed error w) => .ok (.error error, w)
termination_by source.size - w.lexer.offset
decreasing_by
  have hprogress := offset_lt_of_step _hstep
  omega

/-- A walk at the start of a source, its encoding issues already in the log. -/
def start (source : Source) : Walk source :=
  { events := (source.issues.map Event.encodingIssue).toArray }

end Walk

/-- A source's template, or the reason why there is none, with the log of the walk over it. -/
structure Segmentation where
  outcome : Except TemplateError Template
  events : List Event

/-- Segments a source and keeps the log. -/
def Source.segmentation (source : Source) : Checked Segmentation := do
  let (outcome, walk) ← (Walk.start source).run
  match outcome with
  | .error error => return ⟨.error error, walk.events.toList⟩
  | .ok () =>
      let walk := walk.note (.segmented walk.segments.size)
      return ⟨.ok ⟨walk.segments.toList⟩, walk.events.toList⟩

/-- Segments a source. -/
def Source.segment (source : Source) : Checked (Except TemplateError Template) :=
  Segmentation.outcome <$> source.segmentation

end TemplateScan
