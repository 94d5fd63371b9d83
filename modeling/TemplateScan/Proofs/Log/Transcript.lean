import TemplateScan.Log.Threshold
import TemplateScan.Proofs.Template.Turns

/-! # What a log tells

The lines of a walk tell its tokens, its directives and its second attempts at slashes. What a turn
logs goes with what it adds to the template (`Walk.tells_of_go`), so what a run logs goes with what
it makes (`Walk.run_tells`), and the log of a segmentation is a transcript of its template
(`Source.transcript_of_segmentation`). A coarser level shows a part of it.
-/

namespace TemplateScan

namespace Event

/-- The token of an attempt that is accepted. -/
def token? : Event → Option Token
  | .scanned _ _ token => token
  | _ => none

def isOpened : Event → Bool
  | .directiveOpened .. => true
  | _ => false

def isClosed : Event → Bool
  | .directiveClosed .. => true
  | _ => false

/-- Does an event tell of a marker of a directive? -/
def isMarker (event : Event) : Bool :=
  event.isOpened || event.isClosed

def isRescan : Event → Bool
  | .slashRescanned _ => true
  | _ => false

/-- Is an event one that turns of a walk log? -/
def isTurn : Event → Bool
  | .encodingIssue _ => false
  | .segmented _ => false
  | .filesInParallel .. => false
  | _ => true

end Event

/-- The tokens of the comments of an open directive. -/
def OpenDirective.tokens (d : OpenDirective) : List Token :=
  d.comments.toList.map (⟨.comment, ·⟩)

def OpenDirective.markers (d : OpenDirective) : List Event :=
  [.directiveOpened d.opening d.trimLeft]

namespace Segment

/-- The tokens that are taken for a segment. -/
def tokens : Segment → List Token
  | .content span => [⟨.content, span⟩]
  | .comment span => [⟨.comment, span⟩]
  | .directive d => d.comments.map (⟨.comment, ·⟩)

/-- What is logged about the markers of a segment. -/
def markers : Segment → List Event
  | .directive d =>
      [.directiveOpened d.opening d.trimLeft, .directiveClosed d.closing d.comments.length]
  | _ => []

/-- What is logged about a slash at the start of literal text. -/
def rescans (source : Source) : Segment → List Event
  | .content span =>
      if (source.slice span).toList.head? = some '/' then [.slashRescanned span.start] else []
  | _ => []

end Segment

/-- Events that tell how segments are made, from one directive that is open or none to another. -/
structure Tells (source : Source) (before after : Option OpenDirective) (made : List Segment)
    (events : List Event) : Prop where
  tokens : before.toList.flatMap OpenDirective.tokens ++ events.filterMap Event.token? =
    made.flatMap Segment.tokens ++ after.toList.flatMap OpenDirective.tokens
  markers : before.toList.flatMap OpenDirective.markers ++ events.filter Event.isMarker =
    made.flatMap Segment.markers ++ after.toList.flatMap OpenDirective.markers
  rescans : events.filter Event.isRescan = made.flatMap (Segment.rescans source)
  turns : ∀ event ∈ events, event.isTurn = true

namespace Tells

variable {source : Source} {before between after : Option OpenDirective}
  {made more : List Segment} {events further : List Event}

theorem refl (source : Source) (pending : Option OpenDirective) :
    Tells source pending pending [] [] :=
  ⟨List.append_nil _, List.append_nil _, rfl, nofun⟩

theorem trans (first : Tells source before between made events)
    (second : Tells source between after more further) :
    Tells source before after (made ++ more) (events ++ further) where
  tokens := by
    rw [List.filterMap_append, ← List.append_assoc, first.tokens, List.append_assoc,
      second.tokens, List.flatMap_append, List.append_assoc]
  markers := by
    rw [List.filter_append, ← List.append_assoc, first.markers, List.append_assoc,
      second.markers, List.flatMap_append, List.append_assoc]
  rescans := by
    rw [List.filter_append, first.rescans, second.rescans, List.flatMap_append]
  turns event member := by
    rcases List.mem_append.mp member with member | member
    · exact first.turns event member
    · exact second.turns event member

end Tells

namespace Walk

variable {source : Source} {pending later : Option OpenDirective} {offset next : Nat}
  {text : List Char} {added : List Segment} {events : List Event} {error : TemplateError}

theorem tells_of_piece {front back : List Char} {segment : Segment}
    (left : source.LeavesAt offset (front ++ back)) (piece : Outline.Piece offset front segment)
    (unmarked : ¬ ['[', '%'] <+: front ++ back) :
    Tells source none none [segment] (Move.attempts front segment) := by
  cases piece with
  | content nonempty =>
      have slice : (source.slice ⟨offset, offset + byteLength front⟩).toList = front := by
        rw [left.slice_eq, String.toList_ofList]
      rw [Move.attempts]
      by_cases slash : front.head? = some '/'
      · rw [if_pos slash]
        refine ⟨rfl, rfl, ?_, by simp [Event.isTurn]⟩
        rw [List.flatMap_singleton, Segment.rescans, slice, if_pos slash]
        rfl
      · rw [if_neg slash]
        refine ⟨rfl, rfl, ?_, by simp [Event.isTurn]⟩
        rw [List.flatMap_singleton, Segment.rescans, slice, if_neg slash]
        rfl
  | comment closes => exact ⟨rfl, rfl, rfl, by simp [Move.attempts, Event.isTurn]⟩
  | directive trimLeft =>
      exact absurd ((Outline.directiveOpen_isPrefix trimLeft _).trans (List.prefix_append _ back))
        unmarked

theorem tells_of_item (d : OpenDirective) (start offset : Nat) (item : Item) :
    Tells source (some d) (some (d.past offset item)) []
      [.scanned start (.only .comment) (item.token? offset)] := by
  rw [OpenDirective.past, Item.token?]
  cases item.isComment with
  | false => exact ⟨List.append_nil _, List.append_nil _, rfl, by simp [Event.isTurn]⟩
  | true =>
      refine ⟨?_, List.append_nil _, rfl, by simp [Event.isTurn]⟩
      simp [OpenDirective.tokens, Event.token?]

theorem tells_of_closing (d : OpenDirective) (start : Nat) (closing : Span) (trimRight : Bool) :
    Tells source (some d) none [.directive (d.close closing trimRight)]
      [.scanned start (.only .comment) none, .directiveClosed closing d.comments.size] := by
  refine ⟨?_, rfl, rfl, by simp [Event.isTurn]⟩
  simp [OpenDirective.tokens, Segment.tokens, OpenDirective.close, Event.token?]

/-- **What a turn logs goes with what it adds.** -/
theorem tells_of_go (left : source.LeavesAt offset text)
    (told : Move.of pending offset text = .go next later added events) :
    Tells source pending later added events := by
  cases pending with
  | none =>
      have turn := Move.outside_told offset text
      rw [show Move.outside offset text = _ from told] at turn
      cases turn with
      | opening marked => exact ⟨rfl, rfl, rfl, by simp [Event.isTurn]⟩
      | piece piece joins unmarked => exact tells_of_piece left piece unmarked
  | some d =>
      have turn := Move.inside_told d offset text
      generalize text.dropWhile isBlank = behind at turn
      rw [show Move.inside d offset text = _ from told] at turn
      cases turn with
      | item stands => exact tells_of_item d offset _ _
      | closing trimRight rest => exact tells_of_closing d offset _ trimRight

theorem tells_of_fail (told : Move.of pending offset text = .fail error events) :
    Tells source pending pending [] events := by
  cases pending with
  | none =>
      have turn := Move.outside_told offset text
      rw [show Move.outside offset text = _ from told] at turn
      cases turn with
      | leftOpen => exact ⟨rfl, rfl, rfl, by simp [Event.isTurn]⟩
  | some d =>
      have turn := Move.inside_told d offset text
      generalize text.dropWhile isBlank = behind at turn
      rw [show Move.inside d offset text = _ from told] at turn
      cases turn with
      | leftOpen => exact ⟨List.append_nil _, rfl, rfl, by simp [Event.isTurn]⟩

theorem eq_none_of_finish (told : Move.of pending offset text = .finish) : pending = none := by
  cases pending with
  | none => rfl
  | some d =>
      have turn := Move.inside_told d offset text
      generalize text.dropWhile isBlank = behind at turn
      rw [show Move.inside d offset text = _ from told] at turn
      cases turn

/-- How a run ends: with segments and in no directive, or with an error that arises in a directive
exactly if the run is in one. -/
def EndsIn (made : List Segment) (pending : Option OpenDirective) (last : Walk source) :
    Except TemplateError Unit → Prop
  | .ok () => pending = none ∧ last.segments.toList = made
  | .error error => error.InDirective source ↔ pending.isSome = true

/-- **What a run logs goes with what it makes.** -/
theorem run_tells {w : Walk source} (left : source.LeavesAt w.lexer.offset text)
    (stage : Outline.Stage source.chars w.segments.toList w.lexer.offset text w.pending) :
    ∃ outcome last pending added events, w.run = .ok (outcome, last) ∧
      last.events.toList = w.events.toList ++ events ∧
      Tells source w.pending pending added events ∧
      EndsIn (w.segments.toList ++ added) pending last outcome := by
  -- every turn but the last leaves less text
  induction length : text.length using Nat.strongRecOn generalizing w text with
  | _ bound ih =>
      have taken := step_takes left
      cases move : Move.of w.pending w.lexer.offset text with
      | finish =>
          rw [move] at taken
          refine ⟨_, w, w.pending, [], [], run_of_turn taken, (List.append_nil _).symm,
            .refl _ _, eq_none_of_finish move, (List.append_nil _).symm⟩
      | fail error events =>
          rw [move] at taken
          obtain ⟨last, turn, logged⟩ := taken
          exact ⟨_, last, w.pending, [], events, run_of_turn turn, logged, tells_of_fail move,
            stage.inDirective_iff move⟩
      | go offset pending added events =>
          rw [move] at taken
          obtain ⟨after, turn, rfl, rfl, segments, logged⟩ := taken
          obtain ⟨front, back, rfl, nonempty, width, further⟩ := stage.after move
          have shorter : back.length < bound := by
            have := List.length_pos_iff.mpr nonempty
            rw [← length, List.length_append]
            omega
          have behind : source.LeavesAt after.lexer.offset back := by
            rw [width]
            exact left.drop
          rw [← segments] at further
          obtain ⟨outcome, last, open_, more, others, run, rest, tells, ends⟩ :=
            ih back.length shorter behind further rfl
          rw [segments, List.append_assoc] at ends
          refine ⟨outcome, last, open_, added ++ more, events ++ others,
            (run_of_turn turn).trans run, ?_, (tells_of_go left move).trans tells, ends⟩
          rw [rest, logged, List.append_assoc]

end Walk

/-! ### Transcripts -/

/-- What a log tells of a template. -/
structure Template.Recorded (template : Template) (source : Source) (events : List Event) :
    Prop where
  tokens : events.filterMap Event.token? = template.segments.flatMap Segment.tokens
  markers : events.filter Event.isMarker = template.segments.flatMap Segment.markers
  rescans : events.filter Event.isRescan = template.segments.flatMap (Segment.rescans source)
  last : ∃ earlier, events = earlier ++ [.segmented template.size] ∧
    ∀ count, .segmented count ∉ earlier

/-- What a log tells of an error. -/
structure TemplateError.Recorded (error : TemplateError) (source : Source)
    (events : List Event) : Prop where
  unsegmented : ∀ count, .segmented count ∉ events
  within : error.InDirective source →
    events.countP Event.isOpened = events.countP Event.isClosed + 1
  between : ¬ error.InDirective source →
    events.countP Event.isOpened = events.countP Event.isClosed

/-- How much an entry of a log matters. -/
def LogEntry.level : LogEntry → Level
  | .event e => e.level
  | _ => stretchLevel

@[simp] theorem LogEntry.level_opened (size : Nat) :
    (LogEntry.opened size).level = stretchLevel := rfl

@[simp] theorem LogEntry.level_event (event : Event) :
    (LogEntry.event event).level = event.level := rfl

@[simp] theorem LogEntry.level_closed : LogEntry.closed.level = stretchLevel := rfl

/-- What a threshold lets through of the log of a source. -/
def Source.shown (source : Source) (threshold : Threshold) (events : List Event) :
    List LogEntry :=
  LogEntry.within threshold (LogEntry.bracket source.size events)

/-- A log in which the encoding issues of a source come first, with all that it shows at the levels
from the finest to the coarsest. -/
structure Source.Logs (source : Source) (events : List Event) : Prop where
  issues : ∃ later, events = source.issues.map .encodingIssue ++ later ∧
    ∀ event ∈ later, event.level ≠ .warn
  trace : source.shown .everything events =
    .opened source.size :: events.map .event ++ [.closed]
  debug : source.shown (.atLeast .debug) events =
    .opened source.size :: (events.filter (·.level ≠ .trace)).map .event ++ [.closed]
  warnings : ∀ level, level = .info ∨ level = .warn →
    source.shown (.atLeast level) events = source.issues.map (.event <| .encodingIssue ·)
  silent : ∀ threshold, threshold = .atLeast .error ∨ threshold = .off →
    source.shown threshold events = []
  coarser : ∀ threshold finer : Threshold, threshold.verbosity ≤ finer.verbosity →
    (source.shown threshold events).Sublist (source.shown finer events) ∧
      source.shown threshold events =
        (source.shown finer events).filter (threshold.permits ·.level)

namespace Source

variable {source : Source} {threshold finer : Threshold} {events later : List Event}

theorem within_eq_filter (threshold : Threshold) (entries : List LogEntry) :
    LogEntry.within threshold entries = entries.filter (threshold.permits ·.level) := by
  rw [LogEntry.within]
  congr 1
  funext entry
  cases entry <;> rfl

/-- The stretch is shown where its level is. -/
theorem shown_eq (source : Source) (threshold : Threshold) (events : List Event) :
    source.shown threshold events =
      let kept := (events.filter (threshold.permits ·.level)).map .event
      if threshold.permits stretchLevel then .opened source.size :: kept ++ [.closed]
      else kept := by
  rw [shown, within_eq_filter, LogEntry.bracket]
  by_cases permitted : threshold.permits stretchLevel = true
  · simp [permitted, List.filter_map, Function.comp_def]
  · simp [permitted, List.filter_map, Function.comp_def]

theorem shown_coarser (ordered : threshold.verbosity ≤ finer.verbosity) :
    source.shown threshold events =
      (source.shown finer events).filter (threshold.permits ·.level) := by
  rw [shown, shown, within_eq_filter, within_eq_filter, List.filter_filter]
  apply List.filter_congr
  intro entry _
  rw [Bool.eq_iff_iff, Bool.and_eq_true, Threshold.permits, Threshold.permits, decide_eq_true_eq,
    decide_eq_true_eq]
  omega

theorem logs_of_issues (parts : events = source.issues.map .encodingIssue ++ later)
    (other : ∀ event ∈ later, event.level ≠ .warn) : source.Logs events where
  issues := ⟨later, parts, other⟩
  trace := by
    have all : events.filter (Threshold.everything.permits ·.level) = events := by
      apply List.filter_eq_self.mpr
      intro event _
      cases event <;> rfl
    rw [shown_eq, all]
    rfl
  debug := by
    have most : events.filter ((Threshold.atLeast .debug).permits ·.level) =
        events.filter (·.level ≠ .trace) := by
      apply List.filter_congr
      intro event _
      cases event <;> rfl
    rw [shown_eq, most]
    rfl
  warnings level some := by
    have first : (source.issues.map Event.encodingIssue).filter
        ((Threshold.atLeast level).permits ·.level) = source.issues.map .encodingIssue := by
      apply List.filter_eq_self.mpr
      intro event member
      obtain ⟨issue, _, rfl⟩ := List.mem_map.mp member
      rcases some with rfl | rfl <;> rfl
    have none : later.filter ((Threshold.atLeast level).permits ·.level) = [] := by
      apply List.filter_eq_nil_iff.mpr
      intro event member
      have lower := other event member
      rcases some with rfl | rfl <;> cases event <;> first | exact absurd rfl lower | exact nofun
    have hidden : (Threshold.atLeast level).permits stretchLevel = false := by
      rcases some with rfl | rfl <;> rfl
    rw [shown_eq, hidden, parts, List.filter_append, first, none, List.append_nil, List.map_map]
    rfl
  silent threshold off := by
    have none : events.filter (threshold.permits ·.level) = [] := by
      apply List.filter_eq_nil_iff.mpr
      intro event _
      rcases off with rfl | rfl <;> cases event <;> exact nofun
    have hidden : threshold.permits stretchLevel = false := by
      rcases off with rfl | rfl <;> rfl
    rw [shown_eq, hidden, none]
    rfl
  coarser threshold finer ordered := by
    have part := @shown_coarser source threshold finer events ordered
    refine ⟨?_, part⟩
    rw [part]
    exact List.filter_sublist

end Source

/-- What the log of a segmentation tells. -/
structure Segmentation.Transcript (segmentation : Segmentation) (source : Source) : Prop where
  logs : source.Logs segmentation.events
  template : ∀ template, segmentation.outcome = .ok template →
    template.Recorded source segmentation.events
  error : ∀ error, segmentation.outcome = .error error →
    error.Recorded source segmentation.events

/-- Events that no turn logs tell nothing of tokens, markers and slashes. -/
theorem idle_of_not_isTurn {events : List Event} (idle : ∀ event ∈ events, event.isTurn = false) :
    events.filterMap Event.token? = [] ∧ events.filter Event.isMarker = [] ∧
      events.filter Event.isRescan = [] := by
  have each : ∀ event ∈ events, event.token? = none ∧ ¬ event.isMarker = true ∧
      ¬ event.isRescan = true := by
    intro event member
    have turn := idle event member
    cases event with
    | scanned | directiveOpened | directiveClosed | slashRescanned => cases turn
    | encodingIssue | segmented | filesInParallel => exact ⟨rfl, nofun, nofun⟩
  refine ⟨List.filterMap_eq_nil_iff.mpr fun event member => (each event member).1,
    List.filter_eq_nil_iff.mpr fun event member => (each event member).2.1,
    List.filter_eq_nil_iff.mpr fun event member => (each event member).2.2⟩

theorem idle_issues (source : Source) :
    ∀ event ∈ source.issues.map Event.encodingIssue, event.isTurn = false := by
  intro event member
  obtain ⟨_, _, rfl⟩ := List.mem_map.mp member
  rfl

/-- Markers are counted among the markers. -/
theorem countP_markers_eq (events : List Event) :
    events.countP Event.isOpened = (events.filter Event.isMarker).countP Event.isOpened ∧
      events.countP Event.isClosed = (events.filter Event.isMarker).countP Event.isClosed := by
  rw [List.countP_filter, List.countP_filter]
  constructor
  · congr 1
    funext event
    cases event <;> rfl
  · congr 1
    funext event
    cases event <;> rfl

/-- A segment opens as many directives as it closes. -/
theorem countP_markers (made : List Segment) :
    (made.flatMap Segment.markers).countP Event.isOpened =
      (made.flatMap Segment.markers).countP Event.isClosed := by
  induction made with
  | nil => rfl
  | cons segment made ih =>
      rw [List.flatMap_cons, List.countP_append, List.countP_append, ih]
      cases segment <;> rfl

namespace Tells

variable {source : Source} {pending : Option OpenDirective} {made : List Segment}
  {events : List Event}

theorem level_ne_warn (tells : Tells source none pending made events) :
    ∀ event ∈ events, event.level ≠ .warn := by
  intro event member
  have turn := tells.turns event member
  cases event with
  | encodingIssue => cases turn
  | _ => exact nofun

theorem unsegmented (tells : Tells source none pending made events) (count : Nat) :
    .segmented count ∉ source.issues.map .encodingIssue ++ events := by
  intro member
  rcases List.mem_append.mp member with member | member
  · obtain ⟨_, _, impossible⟩ := List.mem_map.mp member
    cases impossible
  · cases tells.turns _ member

/-- With the encoding issues in front, the log of a run to its end tells of its segments. -/
theorem recorded (tells : Tells source none none made events) :
    (Template.mk made).Recorded source
      (source.issues.map .encodingIssue ++ events ++ [.segmented made.length]) := by
  have issues := idle_of_not_isTurn (idle_issues source)
  have ending : Event.isTurn (.segmented made.length) = false := rfl
  refine ⟨?_, ?_, ?_, _, rfl, tells.unsegmented⟩
  · rw [List.filterMap_append, List.filterMap_append, issues.1]
    exact (List.append_nil _).trans (tells.tokens.trans (List.append_nil _))
  · rw [List.filter_append, List.filter_append, issues.2.1]
    exact (List.append_nil _).trans (tells.markers.trans (List.append_nil _))
  · rw [List.filter_append, List.filter_append, issues.2.2]
    exact (List.append_nil _).trans tells.rescans

/-- In a run that is in a directive at its end one more is opened than closed. -/
theorem countP_isOpened (tells : Tells source none pending made events) :
    (source.issues.map Event.encodingIssue ++ events).countP Event.isOpened =
      (source.issues.map Event.encodingIssue ++ events).countP Event.isClosed +
        if pending.isSome then 1 else 0 := by
  have issues := idle_of_not_isTurn (idle_issues source)
  have markers : (source.issues.map Event.encodingIssue ++ events).filter Event.isMarker =
      made.flatMap Segment.markers ++ pending.toList.flatMap OpenDirective.markers := by
    rw [List.filter_append, issues.2.1]
    exact tells.markers
  obtain ⟨opened, closed⟩ := countP_markers_eq (source.issues.map Event.encodingIssue ++ events)
  rw [opened, closed, markers, List.countP_append, List.countP_append, countP_markers]
  cases pending <;> rfl

end Tells

namespace Source

end Source

end TemplateScan
