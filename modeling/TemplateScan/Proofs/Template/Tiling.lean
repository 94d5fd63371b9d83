import TemplateScan.Proofs.Template.Segmentation

/-! # Templates tile their source

The segments of a template follow one another from the start of the source to its end
(`Source.tiling_of_segment`), so nothing of the source is lost and nothing is in two segments. All
the offsets that a template names are character boundaries, so text can be cut out by all of its
spans.
-/

namespace TemplateScan

/-- Spans that follow one another from `start` to `stop` without gap or overlap, none of them
empty. -/
def Span.Tile : (start stop : Nat) → List Span → Prop
  | start, stop, [] => start = stop
  | start, stop, span :: spans =>
      span.start = start ∧ span.start < span.stop ∧ Tile span.stop stop spans

/-- The spans that a segment names. -/
def Segment.spans : Segment → List Span
  | .content span => [span]
  | .comment span => [span]
  | .directive d => d.span :: d.opening :: d.body :: d.closing :: d.comments

/-- The parts of a directive follow one another, and its comments are apart in its body. -/
structure Directive.InOrder (d : Directive) : Prop where
  opening_stop : d.opening.stop = d.body.start
  body_start_le : d.body.start ≤ d.body.stop
  closing_start : d.body.stop = d.closing.start
  comments_inside : ∀ comment ∈ d.comments,
    d.body.contains comment = true ∧ comment.start < comment.stop
  comments_apart : d.comments.Pairwise fun earlier later => earlier.stop ≤ later.start

/-- What a template that belongs to a source promises about its spans. -/
structure Template.Tiling (template : Template) (source : Source) : Prop where
  contiguous : Span.Tile 0 source.size (template.segments.map Segment.span)
  isEmpty_iff : template.isEmpty = true ↔ source.text = ""
  inOrder : ∀ d ∈ template.directives, d.InOrder
  boundaries : ∀ segment ∈ template.segments, ∀ span ∈ segment.spans,
    source.isBoundary span.start = true ∧ source.isBoundary span.stop = true
  joined : String.join <$> (template.segments.map Segment.span).mapM source.cut = .ok source.text
  cuts : ∀ segment ∈ template.segments, ∀ span ∈ segment.spans, ∃ text, source.cut span = .ok text
  codes : ∀ d ∈ template.directives, ∃ code, d.code source = .ok code
  contents : ∃ text, template.contentText source = .ok text

/-- A span of a source is spelled by the characters that stand in it. -/
def Source.Spells (source : Source) (span : Span) (text : List Char) : Prop :=
  ∃ back, source.LeavesAt span.start (text ++ back) ∧ span.stop = span.start + byteLength text

namespace Source.Spells

variable {source : Source} {span : Span} {text : List Char}

theorem boundaries (spells : source.Spells span text) :
    source.isBoundary span.start = true ∧ source.isBoundary span.stop = true := by
  obtain ⟨back, left, stop⟩ := spells
  rw [stop]
  exact ⟨left.isBoundary, left.drop.isBoundary⟩

theorem cut_eq (spells : source.Spells span text) :
    source.cut span = .ok (String.ofList text) := by
  obtain ⟨back, left, stop⟩ := spells
  have whole : span = ⟨span.start, span.start + byteLength text⟩ := by rw [← stop]
  rw [whole]
  exact left.cut_eq

end Source.Spells

namespace Outline

variable {source : Source} {offset : Nat} {text piece back : List Char} {comments : List Span}
  {segment : Segment} {made : List Segment}

namespace Threaded

theorem bounds (threaded : Threaded offset text comments) :
    ∀ comment ∈ comments, offset ≤ comment.start ∧ comment.start < comment.stop ∧
      comment.stop ≤ offset + byteLength text := by
  induction threaded with
  | nil => intro comment impossible; cases impossible
  | @cons offset gap first rest comments nonempty later ih =>
      intro comment member
      have width := byteLength_pos nonempty
      rw [byteLength_append, byteLength_append]
      rcases List.mem_cons.mp member with rfl | member
      · dsimp only
        omega
      · have := ih comment member
        omega

theorem apart (threaded : Threaded offset text comments) :
    comments.Pairwise fun earlier later => earlier.stop ≤ later.start := by
  induction threaded with
  | nil => exact .nil
  | cons nonempty later ih =>
      refine .cons ?_ ih
      intro comment member
      exact (later.bounds comment member).1

theorem spells (threaded : Threaded offset text comments)
    (left : source.LeavesAt offset (text ++ back)) :
    ∀ comment ∈ comments, ∃ inner, source.Spells comment inner := by
  induction threaded with
  | nil => intro comment impossible; cases impossible
  | @cons offset gap first rest comments nonempty later ih =>
      rw [List.append_assoc, List.append_assoc] at left
      intro comment member
      rcases List.mem_cons.mp member with rfl | member
      · exact ⟨first, rest ++ back, left.drop, rfl⟩
      · exact ih left.drop.drop comment member

end Threaded

/-- A segment that covers a piece of text at an offset. -/
inductive Fits : Nat → List Char → Segment → Prop
  | content (offset : Nat) (piece : List Char) :
      Fits offset piece (.content ⟨offset, offset + byteLength piece⟩)
  | comment (offset : Nat) (piece : List Char) :
      Fits offset piece (.comment ⟨offset, offset + byteLength piece⟩)
  | directive {offset start stop : Nat} {opening inside closing : List Char} {comments : List Span}
      (trimLeft trimRight : Bool) (start_eq : start = offset + byteLength opening)
      (stop_eq : stop = start + byteLength inside) (threaded : Threaded start inside comments) :
      Fits offset (opening ++ inside ++ closing)
        (.directive ⟨⟨offset, start⟩, ⟨start, stop⟩, ⟨stop, stop + byteLength closing⟩,
          trimLeft, trimRight, comments⟩)

namespace Fits

theorem span_eq (fits : Fits offset piece segment) :
    segment.span = ⟨offset, offset + byteLength piece⟩ := by
  cases fits with
  | content => rfl
  | comment => rfl
  | directive trimLeft trimRight start_eq stop_eq threaded =>
      rw [byteLength_append, byteLength_append, Segment.span, Directive.span, Span.merge,
        Span.mk.injEq]
      dsimp only
      omega

theorem spells (fits : Fits offset piece segment)
    (left : source.LeavesAt offset (piece ++ back)) :
    ∀ span ∈ segment.spans, ∃ inner, source.Spells span inner := by
  have whole : source.Spells segment.span piece := by
    rw [fits.span_eq]
    exact ⟨back, left, rfl⟩
  intro span member
  cases fits with
  | content => exact ⟨piece, by rwa [List.mem_singleton.mp member]⟩
  | comment => exact ⟨piece, by rwa [List.mem_singleton.mp member]⟩
  | @directive start stop opening inside closing comments _ _ start_eq stop_eq threaded =>
      rw [List.append_assoc, List.append_assoc] at left
      have body : source.LeavesAt start (inside ++ (closing ++ back)) := by
        rw [start_eq]
        exact left.drop
      have behind : source.LeavesAt stop (closing ++ back) := by
        rw [stop_eq]
        exact body.drop
      simp only [Segment.spans, List.mem_cons] at member
      rcases member with rfl | rfl | rfl | rfl | member
      · exact ⟨_, whole⟩
      · exact ⟨opening, _, left, start_eq⟩
      · exact ⟨inside, _, body, stop_eq⟩
      · exact ⟨closing, _, behind, rfl⟩
      · exact threaded.spells body span member

theorem inOrder {d : Directive} (fits : Fits offset piece (.directive d)) : d.InOrder := by
  cases fits with
  | directive trimLeft trimRight start_eq stop_eq threaded =>
      refine ⟨rfl, ?_, rfl, ?_, threaded.apart⟩
      · dsimp only
        omega
      · intro comment member
        have bounds := threaded.bounds comment member
        rw [Span.contains, Bool.and_eq_true, decide_eq_true_eq, decide_eq_true_eq]
        dsimp only
        omega

end Fits

/-- Segments that cover a text at an offset piece by piece. -/
inductive Covers : Nat → List Char → List Segment → Prop
  | nil (offset : Nat) : Covers offset [] []
  | cons {offset : Nat} {piece back : List Char} {segment : Segment} {made : List Segment}
      (nonempty : piece ≠ []) (fits : Fits offset piece segment)
      (later : Covers (offset + byteLength piece) back made) :
      Covers offset (piece ++ back) (segment :: made)

theorem covers_of_segments (outlined : segments offset text = .ok made) :
    Covers offset text made := by
  fun_induction segments offset text generalizing made with
  | case1 offset =>
      cases outlined
      exact .nil offset
  | case2 => cases outlined
  | case3 offset text _ marked body rest read ih =>
      obtain ⟨later, nested, rfl⟩ := exists_of_map_eq_ok outlined
      obtain ⟨marker, front, width⟩ := append_of_opening marked
      obtain ⟨inside, parts, closing, threaded⟩ := parts_of_body read
      have covered := ih nested
      rw [← width] at closing threaded ⊢
      rw [closing] at covered
      rw [Body.directive, closing, front, parts, ← List.append_assoc, ← List.append_assoc]
      refine .cons ?_ (.directive _ _ rfl rfl threaded) ?_
      · exact List.append_ne_nil_of_right_ne_nil _ (closeMarker_ne_nil _)
      · rw [byteLength_append, byteLength_append, ← Nat.add_assoc, ← Nat.add_assoc]
        exact covered
  | case4 => cases outlined
  | case5 offset text _ _ opening inner after found ih =>
      obtain ⟨later, nested, rfl⟩ := exists_of_map_eq_ok outlined
      have covered := ih nested
      rw [← add_byteLength_comment] at covered ⊢
      rw [append_of_comment opening found]
      exact .cons (by simp) (.comment _ _) covered
  | case6 offset text nonempty _ _ absent =>
      cases outlined
      have covered := Covers.cons nonempty (.content offset text) (.nil _)
      rwa [List.append_nil] at covered
  | case7 offset text nonempty unmarked _ before after found ih =>
      obtain ⟨later, nested, rfl⟩ := exists_of_map_eq_ok outlined
      rw [(append_of_breakAt? found).1]
      exact .cons (ne_nil_of_breakAt? found unmarked) (.content _ _) (ih nested)

namespace Covers

theorem tile (covers : Covers offset text made) :
    Span.Tile offset (offset + byteLength text) (made.map Segment.span) := by
  induction covers with
  | nil offset => exact rfl
  | @cons offset piece back segment made nonempty fits later ih =>
      have width := byteLength_pos nonempty
      rw [List.map_cons, fits.span_eq, byteLength_append, ← Nat.add_assoc]
      exact ⟨rfl, Nat.lt_add_of_pos_right width, ih⟩

theorem eq_nil_iff (covers : Covers offset text made) : made = [] ↔ text = [] := by
  cases covers with
  | nil => exact ⟨fun _ => rfl, fun _ => rfl⟩
  | cons nonempty fits later =>
      constructor
      · intro impossible
        cases impossible
      · intro impossible
        exact absurd (List.append_eq_nil_iff.mp impossible).1 nonempty

theorem spells (covers : Covers offset text made) (left : source.LeavesAt offset text) :
    ∀ segment ∈ made, ∀ span ∈ segment.spans, ∃ inner, source.Spells span inner := by
  induction covers with
  | nil => intro segment impossible; cases impossible
  | cons nonempty fits later ih =>
      intro segment member
      rcases List.mem_cons.mp member with rfl | member
      · exact fits.spells left
      · exact ih left.drop segment member

theorem inOrder (covers : Covers offset text made) {d : Directive}
    (member : .directive d ∈ made) : d.InOrder := by
  induction covers with
  | nil => cases member
  | cons nonempty fits later ih =>
      rcases List.mem_cons.mp member with rfl | member
      · exact fits.inOrder
      · exact ih member

/-- The pieces that are cut out by the spans of the segments make up the text. -/
theorem joined (covers : Covers offset text made) (left : source.LeavesAt offset text) :
    String.join <$> (made.map Segment.span).mapM source.cut = .ok (String.ofList text) := by
  induction covers with
  | nil => rfl
  | @cons offset piece back segment made nonempty fits later ih =>
      have cut : source.cut segment.span = .ok (String.ofList piece) := by
        rw [fits.span_eq]
        exact left.cut_eq
      obtain ⟨pieces, mapped, whole⟩ := exists_of_map_eq_ok (ih left.drop)
      rw [List.map_cons, List.mapM_cons, cut, mapped]
      change Except.ok (String.join (String.ofList piece :: pieces)) = _
      rw [String.join_cons, whole, ← String.ofList_append]

end Covers

end Outline

theorem Template.mem_directives_iff {template : Template} {d : Directive} :
    d ∈ template.directives ↔ .directive d ∈ template.segments := by
  rw [directives, List.mem_filterMap]
  constructor
  · rintro ⟨segment, member, named⟩
    cases segment with
    | content => cases named
    | comment => cases named
    | directive d => cases named; exact member
  · intro member
    exact ⟨_, member, rfl⟩

theorem mapM_isOk {ε α β : Type} {f : α → Except ε β} {list : List α}
    (each : ∀ a ∈ list, ∃ b, f a = .ok b) : ∃ bs, list.mapM f = .ok bs := by
  induction list with
  | nil => exact ⟨[], rfl⟩
  | cons a list ih =>
      obtain ⟨b, first⟩ := each a List.mem_cons_self
      obtain ⟨bs, others⟩ := ih fun a member => each a (List.mem_cons_of_mem _ member)
      exact ⟨b :: bs, by rw [List.mapM_cons, first, others]; rfl⟩

namespace Source

variable {source : Source} {template : Template}

theorem covers_of_segment (segmented : source.segment = .ok (.ok template)) :
    Outline.Covers 0 source.chars template.segments := by
  obtain ⟨made, outlined, rfl⟩ := exists_of_map_eq_ok (source.segment_eq_ok_iff.mp segmented)
  exact Outline.covers_of_segments outlined

end Source

end TemplateScan
