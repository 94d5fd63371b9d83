import TemplateScan.Proofs.Template.Items
import TemplateScan.Proofs.Template.Tiling

/-! # What the segments of a template look like

Literal text is a whole run: it is not empty, it opens no directive, it starts with no comment, and
it goes on up to a directive or the end of the source. A comment ends where its closing first stands
behind its opening, at the top and in a directive alike. Both are read off the pieces that a source
is written of (`Source.shapes_of_segment`).
-/

namespace TemplateScan

/-- What literal text looks like. -/
structure LiteralText (text : String) : Prop where
  nonempty : text ≠ ""
  unmarked : ¬ ['[', '%'] <:+: text.toList
  uncommented : ¬ ['/', '*'] <+: text.toList

/-- What a comment looks like. Behind its opening, its closing stands at its end and only there. -/
structure CommentText (text : String) : Prop where
  four_le : 4 ≤ byteLength text.toList
  opens : ['/', '*'] <+: text.toList
  closes : ['*', '/'] <:+ text.toList
  closes_once : ∀ front back, text.toList = front ++ back → 2 ≤ byteLength front →
    ['*', '/'] <+: back → back = ['*', '/']

/-- What the segments of a template look like in a source. -/
structure Template.Shapes (template : Template) (source : Source) : Prop where
  contents : ∀ before span after, template.segments = before ++ .content span :: after →
    (∃ text, source.cut span = .ok text ∧ LiteralText text) ∧
      (after = [] ∨ ∃ d later, after = .directive d :: later)
  comments : ∀ span, .comment span ∈ template.segments →
    ∃ text, source.cut span = .ok text ∧ CommentText text
  bodies : ∀ d ∈ template.directives, ∀ span ∈ d.comments,
    ∃ text, source.cut span = .ok text ∧ CommentText text

/-- The closing of a comment stands at its end only, if it first stands there. -/
theorem eq_closing_of_breakAt? {inner front back : List Char}
    (closes : breakAt? ['*', '/'] (inner ++ ['*', '/']) = some (inner, ['*', '/']))
    (parts : ['/', '*'] ++ inner ++ ['*', '/'] = front ++ back) (behind : 2 ≤ byteLength front)
    (marked : ['*', '/'] <+: back) : back = ['*', '/'] := by
  rw [List.append_assoc] at parts
  obtain ⟨gap, rfl, split⟩ := append_of_byteLength_le parts behind
  have first := length_le_of_breakAt? closes split marked
  have same := congrArg List.length split
  obtain ⟨more, rfl⟩ := marked
  simp only [List.length_append] at same
  have nothing : more = [] := List.length_eq_zero_iff.mp (by omega)
  rw [nothing, List.append_nil]

theorem CommentText.of_closes {inner : List Char}
    (closes : breakAt? ['*', '/'] (inner ++ ['*', '/']) = some (inner, ['*', '/'])) :
    CommentText (String.ofList (['/', '*'] ++ inner ++ ['*', '/'])) := by
  refine ⟨?_, ?_, ?_, ?_⟩
  all_goals rw [String.toList_ofList]
  · rw [Outline.byteLength_comment]
    omega
  · rw [List.append_assoc]
    exact List.prefix_append _ _
  · exact List.suffix_append _ _
  · intro front back
    exact eq_closing_of_breakAt? closes

namespace Outline

variable {offset : Nat} {text : List Char} {made : List Segment}

theorem Pieces.eq_nil_iff (pieces : Pieces offset text made) : made = [] ↔ text = [] := by
  cases pieces with
  | nil => exact ⟨fun _ => rfl, fun _ => rfl⟩
  | cons piece joins others =>
      constructor
      · intro impossible
        cases impossible
      · intro impossible
        exact absurd (List.append_eq_nil_iff.mp impossible).1 piece.ne_nil

/-- Behind literal text a row of pieces ends, or goes on with a directive. -/
theorem Pieces.behind_content {span : Span} (pieces : Pieces offset text made)
    (joins : Joins [.content span] text) : made = [] ∨ ∃ d later, made = .directive d :: later := by
  rcases joins span rfl with empty | marked
  · exact .inl (pieces.eq_nil_iff.mpr empty)
  · cases made with
    | nil => exact .inl rfl
    | cons first later =>
        obtain ⟨d, rfl⟩ := pieces.directive_of_marked marked
        exact .inr ⟨d, later, rfl⟩

end Outline

namespace Source

open Outline

variable {source : Source} {template : Template} {before after : List Segment} {segment : Segment}

/-- The piece of a source that makes a segment, and the pieces behind it. -/
theorem piece_of_segment (segmented : source.segment = .ok (.ok template))
    (parts : template.segments = before ++ segment :: after) :
    ∃ offset piece back, source.LeavesAt offset (piece ++ back) ∧ Piece offset piece segment ∧
      Joins [segment] back ∧ Pieces (offset + byteLength piece) back after := by
  obtain ⟨made, outlined, rfl⟩ := exists_of_map_eq_ok (source.segment_eq_ok_iff.mp segmented)
  have pieces := pieces_of_segments outlined
  rw [show made = before ++ segment :: after from parts] at pieces
  obtain ⟨front, back, whole, _, _, behind⟩ := pieces.split
  have left := source.leavesAt_zero
  rw [whole] at left
  cases behind with
  | cons piece joins others => exact ⟨_, _, _, left.drop, piece, joins, others⟩

/-- The comments among the items of a directive are found at their spans. -/
theorem comment_of_body {opening : Span} {offset : Nat} {text back : List Char} {found : Body}
    {span : Span} (left : source.LeavesAt offset (text ++ back))
    (read : body opening offset text = .ok (found, [])) (member : span ∈ found.comments) :
    ∃ inner, breakAt? ['*', '/'] (inner ++ ['*', '/']) = some (inner, ['*', '/']) ∧
      source.Spells span (['/', '*'] ++ inner ++ ['*', '/']) := by
  obtain ⟨items, rfl, written, comments⟩ := written_of_body read
  rw [comments, Item.mem_spans_iff] at member
  obtain ⟨earlier, item, later, rfl, selected, rfl⟩ := member
  obtain ⟨_, stands, _⟩ := Item.written_append.mp written
  cases item with
  | comment inner =>
      refine ⟨inner, stands, Item.join later ++ closeMarker found.trimRight ++ back, ?_, rfl⟩
      rw [Item.join_append, Item.join_cons, List.append_nil, List.append_assoc, List.append_assoc,
        List.append_assoc, ← List.append_assoc _ _ back] at left
      exact left.drop
  | string => cases selected
  | plain => cases selected

end Source

end TemplateScan
