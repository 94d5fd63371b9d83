import TemplateScan.Proofs.Template.Failure
import TemplateScan.Proofs.Template.Shapes

/-! # What a directive is made of

A directive is its opening marker, a body, and its closing marker, and its body is written of items
in one way only (`Item.eq_of_written`). The comments among these items are the comments that the
directive names. A marker that closes a directive may stand in comments and strings of the body, and
outside them the first one is the one that closes this directive (`Source.anatomy_of_segment`).
-/

namespace TemplateScan

namespace Item

open Outline (Plain closeMarker comment_written)

variable {back behind front rest : List Char} {item : Item} {items others : List Item} {offset : Nat}

/-- The item that a text in a directive starts with. -/
def first? : List Char → Option Item
  | [] => none
  | c :: text =>
      if ['/', '*'] <+: c :: text then
        (breakAt? ['*', '/'] ((c :: text).drop 2)).map fun parts => .comment parts.1
      else if c = '\x22' ∨ c = '\x27' then
        (splitString? c text).map fun parts => .string c parts.1
      else some (.plain c)

/-- An item is read off its text, whatever stands behind it. -/
theorem Stands.first?_eq (stands : item.Stands behind) :
    first? (item.text ++ behind) = some item := by
  cases item with
  | comment inner =>
      obtain ⟨commented, ends⟩ := comment_written stands behind
      rw [text, List.append_assoc, List.append_assoc, List.cons_append] at *
      rw [first?, if_pos commented, ends]
      rfl
  | string quote literal =>
      obtain ⟨quoted, ends⟩ := stands
      have uncommented : ¬ ['/', '*'] <+: quote :: (literal ++ behind) := by
        intro here
        obtain rfl := (List.cons_prefix_cons.mp here).1
        exact absurd quoted (by decide)
      rw [text, List.cons_append, first?, if_neg uncommented, if_pos quoted,
        splitString?_append ends]
      rfl
  | plain c =>
      rw [text, List.singleton_append, first?, if_neg stands.uncommented, if_neg stands.unquoted]

/-- **Bodies are written in one way only.** -/
theorem eq_of_written (left : Written back items) (right : Written back others)
    (same : join items = join others) : items = others := by
  refine eq_of_flatMap_eq ?_ ?_ ?_ left right same
  · intro item items _
    exact item.text_ne_nil
  · intro item items written
    exact written.2
  · intro item other items others written written' joined
    have whole : item.text ++ (join items ++ back) = other.text ++ (join others ++ back) := by
      rw [← List.append_assoc, ← List.append_assoc, ← join_cons, ← join_cons]
      exact congrArg (· ++ back) joined
    have named := written.1.first?_eq
    rw [whole, written'.1.first?_eq] at named
    exact (Option.some.inj named).symm

theorem Written.append_of_two_le (written : Written back items) (long : 2 ≤ back.length)
    (more : List Char) : Written (back ++ more) items := by
  induction items with
  | nil => trivial
  | cons item items ih =>
      refine ⟨?_, ih written.2⟩
      cases item with
      | comment inner => exact written.1
      | string quote literal => exact written.1
      | plain c =>
          have wide : 2 ≤ (join items ++ back).length := by
            rw [List.length_append]
            omega
          rw [← List.append_assoc]
          exact Plain.append written.1 wide more

/-- In front of a closing marker that does not trim, no dash stands: it would be of the marker. -/
theorem Written.getLast?_ne (written : Written ('%' :: ']' :: rest) items) :
    (join items).getLast? ≠ some '-' := by
  rcases List.eq_nil_or_concat items with rfl | ⟨earlier, last, rfl⟩
  · rw [join_nil]
    exact nofun
  · rw [List.concat_eq_append] at written ⊢
    obtain ⟨stands, _⟩ := (written_append.mp written).2
    have ends : (join (earlier ++ [last])).getLast? = last.text.getLast? := by
      rw [join_append, join_cons, join_nil, List.append_nil, List.getLast?_append,
        List.getLast?_eq_some_getLast last.text_ne_nil, Option.some_or]
    rw [ends]
    cases enclosing : last.encloses with
    | true => exact stands.getLast?_ne '-' enclosing (by decide)
    | false =>
        cases last with
        | comment => cases enclosing
        | string => cases enclosing
        | plain c =>
            intro dash
            obtain rfl : c = '-' := Option.some.inj dash
            exact stands.untrimmed (List.prefix_append ['-', '%', ']'] rest)

/-- Every marker that could close a directive in front of the one that does stands in a comment or
a string. -/
theorem Written.enclosed_of_early {trimRight : Bool}
    (written : Written (closeMarker trimRight ++ rest) items) (offset : Nat)
    (parts : join items ++ (closeMarker trimRight ++ rest) = front ++ '%' :: ']' :: behind)
    (early : byteLength front + 2 < byteLength (join items) + byteLength (closeMarker trimRight)) :
    ∃ span ∈ spans encloses offset items, span.start ≤ offset + byteLength front ∧
      offset + byteLength front + 2 ≤ span.stop := by
  rcases kept_or_cut parts with ⟨more, rfl, marker⟩ | ⟨gap, nonempty, inside⟩
  · -- only a dash is left of the marker, and that starts none
    rw [byteLength_append] at early
    cases trimRight with
    | false =>
        have width : byteLength (closeMarker false) = 2 := rfl
        omega
    | true =>
        have width : byteLength (closeMarker true) = 3 := rfl
        cases more with
        | nil => exact absurd (List.cons.inj marker).1 (by decide)
        | cons c more =>
            have := byteLength_pos (List.cons_ne_nil c more)
            omega
  · rw [inside, List.append_assoc, List.append_cancel_left_eq] at parts
    refine written.enclosed offset inside ?_
    match gap, parts with
    | [], _ => exact absurd rfl nonempty
    | [c], parts =>
        -- neither marker starts with the bracket that ends one
        cases trimRight <;> exact absurd (List.cons.inj (List.cons.inj parts).2).1 (by decide)
    | c :: d :: gap, parts =>
        obtain ⟨rfl, tail⟩ := List.cons.inj parts
        obtain ⟨rfl, _⟩ := List.cons.inj tail
        exact List.prefix_append ['%', ']'] gap

theorem stop_le_of_mem_spans {select : Item → Bool} {span : Span}
    (member : span ∈ spans select offset items) :
    span.stop ≤ offset + byteLength (join items) := by
  obtain ⟨before, item, after, rfl, _, rfl⟩ := mem_spans_iff.mp member
  rw [join_append, join_cons, byteLength_append, byteLength_append]
  dsimp only
  omega

end Item

/-- A marker that can close a directive stands at a place of a source. -/
def Source.ClosesAt (source : Source) (place : Nat) : Prop :=
  ∃ rest, source.LeavesAt place ('%' :: ']' :: rest)

/-- The body of a directive is written of some items, in front of what the source has behind it. -/
def Directive.WrittenOf (d : Directive) (source : Source) (items : List Item) : Prop :=
  ∃ back, source.LeavesAt d.body.start (Item.join items ++ back) ∧
    d.body.stop = d.body.start + byteLength (Item.join items) ∧ Item.Written back items

/-- What a directive of a source is made of, with the items of its body. -/
structure Directive.Anatomy (d : Directive) (source : Source) (items : List Item) : Prop where
  opening : source.cut d.opening = .ok (if d.trimLeft then "[%-" else "[%")
  undashed : d.trimLeft = false → source.byteAt d.opening.stop ≠ '-'.toUInt8
  closing : source.cut d.closing = .ok (if d.trimRight then "-%]" else "%]")
  bounds : d.body = ⟨d.opening.stop, d.closing.start⟩
  body : ∃ text, source.cut d.body = .ok text ∧
    (d.trimRight = false → text.toList.getLast? ≠ some '-')
  written : d.WrittenOf source items
  unique : ∀ others, d.WrittenOf source others → others = items
  comments : d.comments = Item.spans Item.isComment d.body.start items
  /-- The closing marker ends with one that stands behind all comments and strings of the body. -/
  closes : ∃ place, d.opening.stop ≤ place ∧ place + 2 = d.closing.stop ∧ source.ClosesAt place ∧
    ∀ span ∈ Item.spans Item.encloses d.body.start items, span.stop ≤ place
  /-- Any other in front of that stands in a comment or in a string. -/
  enclosed : ∀ place, d.opening.stop ≤ place → place + 2 < d.closing.stop →
    source.ClosesAt place →
      ∃ span ∈ Item.spans Item.encloses d.body.start items,
        span.contains ⟨place, place + 2⟩ = true

theorem Directive.WrittenOf.eq {d : Directive} {source : Source} {items others : List Item}
    (left : d.WrittenOf source items) (right : d.WrittenOf source others) : items = others := by
  obtain ⟨back, leaves, stop, written⟩ := left
  obtain ⟨back', leaves', stop', written'⟩ := right
  have widths : byteLength (Item.join items) = byteLength (Item.join others) := by omega
  obtain ⟨same, rfl⟩ := append_inj_of_byteLength (leaves.eq leaves') widths
  exact Item.eq_of_written written written' same

namespace Outline

open Item

variable {source : Source} {offset : Nat} {text back : List Char} {found : Body} {d : Directive}
  {items : List Item} {trimLeft trimRight : Bool}

/-- A body that is read to the end of a text, told by its items. -/
theorem body_eq_of_read {opening : Span} (read : body opening offset text = .ok (found, [])) :
    ∃ items, text = join items ++ closeMarker found.trimRight ∧
      Written (closeMarker found.trimRight) items ∧
      found = ⟨spans isComment offset items, ⟨offset + byteLength (join items),
        offset + byteLength (join items) + byteLength (closeMarker found.trimRight)⟩,
        found.trimRight⟩ := by
  obtain ⟨items, parts, written, comments⟩ := written_of_body read
  obtain ⟨inside, again, closing, _⟩ := parts_of_body read
  rw [List.append_nil] at parts again written
  rw [parts, List.append_cancel_right_eq] at again
  subst again
  refine ⟨items, parts, written, ?_⟩
  rw [← comments, ← closing]

theorem exists_append_closeMarker (trimRight : Bool) :
    ∃ dash, closeMarker trimRight = dash ++ ['%', ']'] := by
  cases trimRight
  · exact ⟨[], rfl⟩
  · exact ⟨['-'], rfl⟩

/-- A directive that is spelled out in a source from an offset on. -/
structure Laid (source : Source) (offset : Nat) (trimLeft trimRight : Bool) (items : List Item)
    (back : List Char) : Prop where
  leaves : source.LeavesAt offset
    (openMarker trimLeft ++ (join items ++ (closeMarker trimRight ++ back)))
  undashed : trimLeft = false → ¬ ['-'] <+: join items ++ (closeMarker trimRight ++ back)
  written : Written (closeMarker trimRight ++ back) items

/-- The directive that is made of its markers and the items between them. -/
def directiveOf (offset : Nat) (trimLeft trimRight : Bool) (items : List Item) : Directive :=
  let start := offset + openWidth trimLeft
  let stop := start + byteLength (join items)
  ⟨⟨offset, start⟩, ⟨start, stop⟩, ⟨stop, stop + byteLength (closeMarker trimRight)⟩,
    trimLeft, trimRight, spans isComment start items⟩

namespace Laid

theorem behind_opening (laid : Laid source offset trimLeft trimRight items back) :
    source.LeavesAt (offset + openWidth trimLeft)
      (join items ++ (closeMarker trimRight ++ back)) := by
  rw [← byteLength_openMarker]
  exact laid.leaves.drop

theorem cut_opening (laid : Laid source offset trimLeft trimRight items back) :
    source.cut ⟨offset, offset + openWidth trimLeft⟩ =
      .ok (if trimLeft then "[%-" else "[%") := by
  rw [← byteLength_openMarker, laid.leaves.cut_eq]
  cases trimLeft <;> rfl

theorem byteAt_ne (laid : Laid source offset trimLeft trimRight items back)
    (plain : trimLeft = false) :
    source.byteAt (offset + openWidth trimLeft) ≠ '-'.toUInt8 := by
  intro dash
  have left := laid.behind_opening
  have undashed := laid.undashed plain
  have filled : closeMarker trimRight ++ back ≠ [] :=
    List.append_ne_nil_of_left_ne_nil (closeMarker_ne_nil trimRight) back
  have nonempty := List.append_ne_nil_of_right_ne_nil (join items) filled
  generalize join items ++ (closeMarker trimRight ++ back) = text at left undashed nonempty
  cases text with
  | nil => exact absurd rfl nonempty
  | cons c text =>
      obtain rfl := (byte_eq_ascii_iff rfl left.lead_eq).mp dash
      exact undashed (List.prefix_append ['-'] text)

theorem cut_closing (laid : Laid source offset trimLeft trimRight items back) :
    source.cut (directiveOf offset trimLeft trimRight items).closing =
      .ok (if trimRight then "-%]" else "%]") := by
  rw [directiveOf, laid.behind_opening.drop.cut_eq]
  cases trimRight <;> rfl

theorem closes (laid : Laid source offset trimLeft trimRight items back) :
    ∃ place, offset + openWidth trimLeft ≤ place ∧
      place + 2 = (directiveOf offset trimLeft trimRight items).closing.stop ∧
      source.ClosesAt place ∧
      ∀ span ∈ spans encloses (offset + openWidth trimLeft) items, span.stop ≤ place := by
  obtain ⟨dash, marker⟩ := exists_append_closeMarker trimRight
  have closing := laid.behind_opening.drop
  rw [marker, List.append_assoc] at closing
  refine ⟨_, ?_, ?_, ⟨back, closing.drop⟩, ?_⟩
  · omega
  · rw [directiveOf, marker, byteLength_append, ← Nat.add_assoc]
    rfl
  · intro span member
    have := stop_le_of_mem_spans member
    omega

theorem anatomy (laid : Laid source offset trimLeft trimRight items back) :
    (directiveOf offset trimLeft trimRight items).Anatomy source items := by
  have inside := laid.behind_opening
  have written : (directiveOf offset trimLeft trimRight items).WrittenOf source items :=
    ⟨_, inside, rfl, laid.written⟩
  refine {
    opening := laid.cut_opening
    undashed := laid.byteAt_ne
    closing := laid.cut_closing
    bounds := rfl
    body := ⟨_, inside.cut_eq, ?_⟩
    written := written
    unique := fun others again => again.eq written
    comments := rfl
    closes := laid.closes
    enclosed := ?_ }
  · intro plain
    have ends := laid.written
    obtain rfl : trimRight = false := plain
    rw [String.toList_ofList]
    exact ends.getLast?_ne
  · rintro place ordered early ⟨rest, closed⟩
    obtain ⟨front, parts, rfl⟩ := inside.split closed ordered
    dsimp only [directiveOf] at early
    obtain ⟨span, member, start, stop⟩ :=
      laid.written.enclosed_of_early (offset + openWidth trimLeft) parts (by omega)
    refine ⟨span, member, ?_⟩
    rw [Span.contains, Bool.and_eq_true, decide_eq_true_eq, decide_eq_true_eq]
    exact ⟨start, stop⟩

end Laid

theorem Piece.anatomy {piece : List Char} (made : Piece offset piece (.directive d))
    (left : source.LeavesAt offset (piece ++ back)) : ∃ items, d.Anatomy source items := by
  cases made with
  | @directive text found trimLeft undashed read =>
      obtain ⟨items, rfl, written, whole⟩ := body_eq_of_read read
      have long : 2 ≤ (closeMarker found.trimRight).length := by
        cases found.trimRight <;> decide
      have laid : Laid source offset trimLeft found.trimRight items back := by
        rw [List.append_assoc, List.append_assoc] at left
        refine ⟨left, ?_, written.append_of_two_le long back⟩
        intro plain
        rw [← List.append_assoc, isPrefix_append_iff back]
        · exact undashed plain
        · rw [List.length_append, List.length_singleton]
          omega
      have named : found.directive ⟨offset, offset + openWidth trimLeft⟩ trimLeft =
          directiveOf offset trimLeft found.trimRight items := by
        rw [whole]
        rfl
      exact ⟨items, named ▸ laid.anatomy⟩

end Outline

namespace Source

variable {source : Source} {template : Template} {d : Directive}

/-- **What a directive is made of.** Its body is written of comments, strings and single characters
in one way only, its comments are the ones there, and outside of comments and strings it is closed
by the first marker that can close it. -/
theorem anatomy_of_segment (segmented : source.segment = .ok (.ok template))
    (member : d ∈ template.directives) : ∃ items, d.Anatomy source items := by
  obtain ⟨before, after, parts⟩ := List.append_of_mem (Template.mem_directives_iff.mp member)
  obtain ⟨offset, piece, back, left, made, _, _⟩ := piece_of_segment segmented parts
  exact made.anatomy left

/-- A dash in front of the marker that closes, and markers in a comment and in a string. -/
theorem anatomy_of_segment_dashes :
    ∃ template d items, (ofText "é[%-%-'\\'%]'/*'%]*/--%]").segment = .ok (.ok template) ∧
      d ∈ template.directives ∧ d.closing = ⟨21, 24⟩ ∧ d.comments = [⟨13, 20⟩] ∧
      d.Anatomy (ofText "é[%-%-'\\'%]'/*'%]*/--%]") items := by
  have segmented : (ofText "é[%-%-'\\'%]'/*'%]*/--%]").segment =
      .ok (.ok ⟨[.content ⟨0, 2⟩,
        .directive ⟨⟨2, 5⟩, ⟨5, 21⟩, ⟨21, 24⟩, true, true, [⟨13, 20⟩]⟩]⟩) := by
    with_unfolding_all rfl
  obtain ⟨items, anatomy⟩ := anatomy_of_segment segmented (List.mem_singleton_self _)
  exact ⟨_, _, items, segmented, List.mem_singleton_self _, rfl, rfl, anatomy⟩

end Source

end TemplateScan
