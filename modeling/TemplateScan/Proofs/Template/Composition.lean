import TemplateScan.Proofs.Template.Pieces
import TemplateScan.Proofs.Template.Segmentation

/-! # Templates one behind the other

A text that can be segmented keeps its segments when more text is put behind it, unless literal text
at its end goes on (`Source.segment_append`). What is put behind has the segments or the error that
it has by itself, at later offsets: reading a text does not depend on where it stands
(`Outline.segments_shift`).
-/

namespace TemplateScan

/-- A directive that stands later by a number of bytes. -/
def Directive.shift (bytes : Nat) (d : Directive) : Directive where
  opening := d.opening.shift bytes
  body := d.body.shift bytes
  closing := d.closing.shift bytes
  trimLeft := d.trimLeft
  trimRight := d.trimRight
  comments := d.comments.map (·.shift bytes)

/-- A segment that stands later by a number of bytes. -/
def Segment.shift (bytes : Nat) : Segment → Segment
  | .content span => .content (span.shift bytes)
  | .comment span => .comment (span.shift bytes)
  | .directive d => .directive (d.shift bytes)

/-- An error that stands later by a number of bytes. -/
def TemplateError.shift (bytes : Nat) : TemplateError → TemplateError
  | .unterminatedComment span => .unterminatedComment (span.shift bytes)
  | .unterminatedDirective opening => .unterminatedDirective (opening.shift bytes)
  | .unterminatedString span => .unterminatedString (span.shift bytes)

namespace Outline

variable {text : List Char}

def Body.shift (bytes : Nat) (body : Body) : Body where
  comments := body.comments.map (·.shift bytes)
  closing := body.closing.shift bytes
  trimRight := body.trimRight

/-- What comes of a text that stands later by a number of bytes. -/
def shifted {α : Type} (bytes : Nat) (move : α → α) :
    Except TemplateError α → Except TemplateError α
  | .error error => .error (error.shift bytes)
  | .ok value => .ok (move value)

theorem shift_between (offset width bytes : Nat) :
    (⟨offset + bytes, offset + bytes + width⟩ : Span) =
      (⟨offset, offset + width⟩ : Span).shift bytes := by
  rw [Span.shift, Nat.add_right_comm]

theorem body_shift (opening : Span) (offset bytes : Nat) (text : List Char) :
    body (opening.shift bytes) (offset + bytes) text =
      shifted bytes (fun parts => (parts.1.shift bytes, parts.2)) (body opening offset text) := by
  fun_induction body opening offset text with
  | case1 =>
      rw [body]
      rfl
  | case2 offset c text commented absent =>
      rw [body_of_comment _ _ commented, absent, shift_between]
      rfl
  | case3 offset c text commented inner after found ih =>
      have behind : offset + bytes + 2 + byteLength inner + 2 =
          offset + 2 + byteLength inner + 2 + bytes := by omega
      rw [body_of_comment _ _ commented, found]
      dsimp only
      rw [behind, ih]
      cases body opening (offset + 2 + byteLength inner + 2) (after.drop 2) with
      | error error => rfl
      | ok parts => rfl
  | case4 offset c text _ trimmed =>
      rw [@body_of_closing _ _ true _ trimmed, shift_between]
      rfl
  | case5 offset c text _ _ closed =>
      rw [@body_of_closing _ _ false _ closed, shift_between]
      rfl
  | case6 offset c text _ _ _ quoted absent =>
      rw [body_of_string _ _ text quoted, absent, shift_between]
      rfl
  | case7 offset c text _ _ _ quoted literal after found ih =>
      have behind : offset + bytes + 1 + byteLength literal =
          offset + 1 + byteLength literal + bytes := by omega
      rw [body_of_string _ _ text quoted, found, ← ih, ← behind]
  | case8 offset c text uncommented untrimmed unclosed unquoted ih =>
      rw [body_of_plain _ _ ⟨uncommented, untrimmed, unclosed, unquoted⟩, ← ih, Nat.add_right_comm]

/-- Reading a text does not depend on where it stands. -/
theorem segments_shift (offset bytes : Nat) (text : List Char) :
    segments (offset + bytes) text =
      shifted bytes (List.map (Segment.shift bytes)) (segments offset text) := by
  fun_induction segments offset text with
  | case1 offset => exact segments_nil _
  | case2 offset text _ marked error read =>
      rw [segments_of_marked _ marked, shift_between, Nat.add_right_comm, body_shift, read]
      rfl
  | case3 offset text _ marked found rest read ih =>
      rw [segments_of_marked _ marked, shift_between, Nat.add_right_comm, body_shift, read]
      change (segments (found.closing.stop + bytes) rest).map _ = _
      rw [ih]
      cases segments found.closing.stop rest with
      | error error => rfl
      | ok made => rfl
  | case4 offset text _ _ commented absent =>
      rw [segments_of_comment _ commented, absent, shift_between]
      rfl
  | case5 offset text _ _ commented inner after found ih =>
      have behind : offset + bytes + 2 + byteLength inner + 2 =
          offset + 2 + byteLength inner + 2 + bytes := by omega
      rw [segments_of_comment _ commented, found]
      dsimp only
      rw [behind, ih]
      cases segments (offset + 2 + byteLength inner + 2) (after.drop 2) with
      | error error => rfl
      | ok made => rfl
  | case6 offset text nonempty unmarked uncommented absent =>
      rw [segments_of_content _ nonempty unmarked uncommented, absent, shift_between]
      rfl
  | case7 offset text nonempty unmarked uncommented before after found ih =>
      rw [segments_of_content _ nonempty unmarked uncommented, found]
      dsimp only
      rw [Nat.add_right_comm, ih]
      cases segments (offset + byteLength before) after with
      | error error => rfl
      | ok made => rfl

end Outline

namespace Source

/-- **Segmentation composes.** Put behind a text that can be segmented, another one has the segments
or the error that it has by itself, later by the bytes of the first. Where the first ends in literal
text, the other one must be empty or open a directive. -/
theorem segment_append {front back : String} {made : Template}
    (segmented : (ofText front).segment = .ok (.ok made))
    (joins : made.segments = [] ∨ (∀ span, made.segments.getLast? ≠ some (.content span)) ∨
      back = "" ∨ Marker.directiveOpen <+: back.toList) :
    ∃ outcome, (ofText back).segment = .ok outcome ∧
      (ofText (front ++ back)).segment = .ok (match outcome with
        | .ok later =>
            .ok ⟨made.segments ++ later.segments.map (Segment.shift (ofText front).size)⟩
        | .error error => .error (error.shift (ofText front).size)) := by
  obtain ⟨row, outlined, rfl⟩ := exists_of_map_eq_ok ((segment_eq_ok_iff _).mp segmented)
  have joins : Outline.Joins row back.toList := by
    intro span last
    rcases joins with empty | other | rfl | marked
    · rw [show row = [] from empty] at last
      cases last
    · exact absurd last (other span)
    · exact .inl rfl
    · exact .inr marked
  refine ⟨_, (segment_eq_ok_iff _).mpr rfl, (segment_eq_ok_iff _).mpr ?_⟩
  have whole := (Outline.pieces_of_segments outlined).segments_append joins
  have characters : (ofText (front ++ back)).chars = (ofText front).chars ++ back.toList :=
    String.toList_append
  rw [characters, whole, Outline.segments_shift, byteLength_chars]
  change _ =
    match (Outline.segments 0 back.toList).map Template.mk with | .ok _ => _ | .error _ => _
  cases Outline.segments 0 back.toList with
  | error error => rfl
  | ok later => rfl

/-- A directive, and behind it literal text and a directive with an open comment. -/
theorem segment_append_directive :
    (ofText "[% 'é' %]").segment =
        .ok (.ok ⟨[.directive ⟨⟨0, 2⟩, ⟨2, 8⟩, ⟨8, 10⟩, false, false, []⟩]⟩) ∧
      (ofText ("[% 'é' %]" ++ "é[% /*")).segment =
        .ok (.error (.unterminatedComment ⟨15, 17⟩)) := by
  have segmented : (ofText "[% 'é' %]").segment =
      .ok (.ok ⟨[.directive ⟨⟨0, 2⟩, ⟨2, 8⟩, ⟨8, 10⟩, false, false, []⟩]⟩) := by
    with_unfolding_all rfl
  have behind : (ofText "é[% /*").segment = .ok (.error (.unterminatedComment ⟨5, 7⟩)) := by
    with_unfolding_all rfl
  obtain ⟨outcome, alone, joined⟩ := segment_append segmented (.inr (.inl (by simp)))
  rw [behind] at alone
  cases alone
  exact ⟨segmented, joined⟩

end Source

end TemplateScan
