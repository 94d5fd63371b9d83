import TemplateScan.Proofs.Template.Items
import TemplateScan.Proofs.Template.Segmentation

/-! # Why a source has no template

A source that cannot be segmented is a row of pieces up to the place where something is opened and
never closed (`Outline.pieces_of_error`). The error says what that is and where, and the source
bears it out (`Source.justified_of_error`): a comment or a string has no end, and what closes a
directive stands inside comments and strings only.
-/

namespace TemplateScan

/-! ### Strings that do not end -/

/-- The characters of a text that are not escaped. A backslash escapes the character behind it. -/
def unescaped : List Char → List Char
  | [] => []
  | c :: text =>
      if c = '\\' then
        match text with
        | [] => [c]
        | _ :: text => c :: unescaped text
      else c :: unescaped text

theorem unescaped_cons_plain {c : Char} (plain : ¬ c = '\\') (text : List Char) :
    unescaped (c :: text) = c :: unescaped text := by
  conv => lhs; unfold unescaped
  rw [if_neg plain]

/-- A string ends where its quote stands unescaped. -/
theorem splitString?_eq_none_iff {quote : Char} (other : quote ≠ '\\') (text : List Char) :
    splitString? quote text = none ↔ quote ∉ unescaped text := by
  fun_induction splitString? quote text with
  | case1 => simp [unescaped]
  | case2 text => simp [unescaped_cons_plain other]
  | case3 different => simp [unescaped, other]
  | case4 escaped text different ih => simp [unescaped, other, ih]
  | case5 c text different plain ih =>
      simp [unescaped_cons_plain plain, ih, Ne.symm different]

theorem getLast?_of_splitString? {quote : Char} {text literal after : List Char}
    (found : splitString? quote text = some (literal, after)) : literal.getLast? = some quote := by
  fun_induction splitString? quote text generalizing literal with
  | case1 => cases found
  | case2 text =>
      cases found
      rfl
  | case3 => cases found
  | case4 escaped text different ih =>
      obtain ⟨⟨inner, back⟩, inside, joined⟩ := Option.map_eq_some_iff.mp found
      cases joined
      simp [List.getLast?_cons, ih inside]
  | case5 c text different plain ih =>
      obtain ⟨⟨inner, back⟩, inside, joined⟩ := Option.map_eq_some_iff.mp found
      cases joined
      simp [List.getLast?_cons, ih inside]

namespace Item

variable {behind back front rest : List Char} {item : Item} {items : List Item}

theorem Stands.getLast?_ne (sign : Char) (stands : item.Stands behind)
    (enclosing : item.encloses = true) (other : sign ∉ ['/', '\x22', '\x27']) :
    item.text.getLast? ≠ some sign := by
  intro last
  cases item with
  | comment inner =>
      rw [text, List.getLast?_append] at last
      obtain rfl : '/' = sign := Option.some.inj last
      exact other (by decide)
  | string quote literal =>
      rw [text, List.getLast?_cons, getLast?_of_splitString? stands.2] at last
      obtain rfl : quote = sign := Option.some.inj last
      rcases stands.1 with rfl | rfl <;> exact other (by decide)
  | plain c => cases enclosing

/-- A marker that closes a directive stands wholly in one item of a row, and that is a comment or a
string. -/
theorem Written.enclosed (written : Written back items) (offset : Nat)
    (parts : join items = front ++ rest) (closed : ['%', ']'] <+: rest) :
    ∃ span ∈ spans encloses offset items, span.start ≤ offset + byteLength front ∧
      offset + byteLength front + 2 ≤ span.stop := by
  induction items generalizing offset front with
  | nil =>
      rw [join_nil] at parts
      rw [(List.nil_eq_append_iff.mp parts).2] at closed
      cases List.prefix_nil.mp closed
  | cons item items ih =>
      obtain ⟨stands, later⟩ := written
      rw [join_cons] at parts
      rcases kept_or_cut parts with ⟨more, rfl, behind⟩ | ⟨gap, nonempty, early⟩
      · obtain ⟨span, member, bounds⟩ := ih later (offset + byteLength item.text) behind
        refine ⟨span, ?_, ?_⟩
        · rw [spans]
          split
          · exact List.mem_cons_of_mem _ member
          · exact member
        · rw [byteLength_append]
          omega
      · rw [early, List.append_assoc, List.append_cancel_left_eq] at parts
        rw [← parts] at closed
        cases enclosing : item.encloses with
        | false =>
            -- a single character would start the marker itself
            cases item with
            | comment => cases enclosing
            | string => cases enclosing
            | plain c =>
                have single : [c] = front ++ gap := early
                obtain ⟨rfl, rfl⟩ | ⟨_, impossible⟩ := List.singleton_eq_append_iff.mp single
                · exact absurd (closed.trans (List.prefix_append _ back)) stands.unclosed
                · exact absurd impossible nonempty
        | true =>
            have long : 2 ≤ byteLength gap := by
              cases gap with
              | nil => exact absurd rfl nonempty
              | cons d gap =>
                  have first := d.utf8Size_pos
                  rw [byteLength_cons]
                  cases gap with
                  | nil =>
                      -- the item would end in the first sign of the marker
                      have last := stands.getLast?_ne '%' enclosing (by decide)
                      obtain rfl := (List.cons_prefix_cons.mp closed).1
                      rw [early, List.getLast?_concat] at last
                      exact absurd rfl last
                  | cons e gap =>
                      have second := byteLength_pos (List.cons_ne_nil e gap)
                      omega
            have width := congrArg byteLength early
            rw [byteLength_append] at width
            refine ⟨⟨offset, offset + byteLength item.text⟩, by simp [spans, enclosing], ?_, ?_⟩
            · exact Nat.le_add_right _ _
            · dsimp only
              omega

end Item

namespace Outline

open Item

variable {offset : Nat} {text : List Char} {error : TemplateError}

/-- Text at an offset that opens a comment or a directive and does not close it. -/
inductive Broken (offset : Nat) : List Char → TemplateError → Prop
  | comment {inner : List Char} (absent : breakAt? ['*', '/'] inner = none) :
      Broken offset ('/' :: '*' :: inner)
        (.unterminatedComment ⟨offset, offset + byteLength ('/' :: '*' :: inner)⟩)
  | directive {items : List Item} {tail : List Char} {error : TemplateError} (trimLeft : Bool)
      (undashed : trimLeft = false → ¬ ['-'] <+: join items ++ tail)
      (written : Written tail items)
      (leftOpen : LeftOpen ⟨offset, offset + openWidth trimLeft⟩
        (offset + openWidth trimLeft + byteLength (join items)) tail error) :
      Broken offset (openMarker trimLeft ++ (join items ++ tail)) error

theorem broken_of_body (marked : ['[', '%'] <+: text)
    (failed : body ⟨offset, offset + openWidth (trimsLeft text)⟩
      (offset + openWidth (trimsLeft text)) (text.drop (openWidth (trimsLeft text))) =
        .error error) :
    Broken offset text error := by
  have parts := append_of_openMarker marked
  have undashed := undashed_of_marked marked
  generalize trimsLeft text = trimLeft at parts undashed failed
  obtain ⟨items, tail, inside, written, leftOpen⟩ := written_of_error failed
  rw [inside] at parts undashed
  rw [parts]
  exact .directive trimLeft undashed written leftOpen

theorem broken_of_comment (commented : ['/', '*'] <+: text)
    (absent : breakAt? ['*', '/'] (text.drop 2) = none) :
    Broken offset text (.unterminatedComment ⟨offset, offset + byteLength text⟩) := by
  obtain ⟨inner, rfl⟩ := commented
  exact .comment absent

/-- The text in front of an error: a row of pieces, behind which something is left open. -/
structure FailsBehind (offset : Nat) (text : List Char) (error : TemplateError)
    (front back : List Char) (made : List Segment) : Prop where
  parts : text = front ++ back
  row : Pieces offset front made
  joins : Joins made back
  broken : Broken (offset + byteLength front) back error
  /-- The row may stand wherever the text may. -/
  opens : ['[', '%'] <+: text → front = [] ∨ ['[', '%'] <+: front

theorem FailsBehind.of_broken (broken : Broken offset text error) :
    FailsBehind offset text error [] text [] where
  parts := rfl
  row := .nil offset
  joins _ impossible := nomatch impossible
  broken := broken
  opens _ := .inl rfl

theorem FailsBehind.cons {front back rest : List Char} {first : Segment} {made : List Segment}
    (piece : Piece offset front first) (joins : Joins [first] rest)
    (opens : ['[', '%'] <+: front ++ rest → ['[', '%'] <+: front) {inner : List Char}
    (fails : FailsBehind (offset + byteLength front) rest error inner back made) :
    FailsBehind offset (front ++ rest) error (front ++ inner) back (first :: made) where
  parts := by rw [fails.parts, List.append_assoc]
  row := by
    refine .cons piece ?_ fails.row
    intro span last
    rcases joins span last with empty | marked
    · rw [fails.parts] at empty
      exact .inl (List.append_eq_nil_iff.mp empty).1
    · exact fails.opens marked
  joins := by
    cases made with
    | nil =>
        intro span last
        have alone : inner = [] := by
          cases fails.row
          rfl
        have parts := fails.parts
        rw [alone, List.nil_append] at parts
        rw [← parts]
        exact joins span last
    | cons second made => exact joins_cons_cons.mpr fails.joins
  broken := by
    rw [byteLength_append, ← Nat.add_assoc]
    exact fails.broken
  opens marked := .inr ((opens marked).trans (List.prefix_append front inner))

/-- **Where a text fails.** A text without segments is a row of pieces up to what it leaves open. -/
theorem pieces_of_error (failed : segments offset text = .error error) :
    ∃ front back made, FailsBehind offset text error front back made := by
  fun_induction segments offset text with
  | case1 => cases failed
  | case2 offset text _ marked met read =>
      cases failed
      exact ⟨_, _, _, .of_broken (broken_of_body marked read)⟩
  | case3 offset text _ marked found rest read ih =>
      obtain ⟨front, parts, stop, piece⟩ := piece_of_body marked read
      cases nested : segments found.closing.stop rest with
      | ok later =>
          rw [nested] at failed
          cases failed
      | error met =>
          rw [nested] at failed ih
          cases failed
          obtain ⟨inner, back, made, fails⟩ := ih rfl
          rw [stop] at fails
          have whole := fails.cons piece (.of_other (by simp) rest) fun _ => piece.marked
          rw [← parts] at whole
          exact ⟨_, _, _, whole⟩
  | case4 offset text _ _ commented absent =>
      cases failed
      exact ⟨_, _, _, .of_broken (broken_of_comment commented absent)⟩
  | case5 offset text _ unmarked commented inner after found ih =>
      cases nested : segments (offset + 2 + byteLength inner + 2) (after.drop 2) with
      | ok later =>
          rw [nested] at failed
          cases failed
      | error met =>
          rw [nested] at failed ih
          cases failed
          obtain ⟨front, back, made, fails⟩ := ih rfl
          have parts := append_of_comment commented found
          rw [parts] at unmarked ⊢
          rw [← add_byteLength_comment] at fails
          exact ⟨_, _, _, fails.cons (.comment (breakAt?_alone found)) (.of_other (by simp) _)
            fun marked => absurd marked unmarked⟩
  | case6 => cases failed
  | case7 offset text nonempty unmarked uncommented before after found ih =>
      cases nested : segments (offset + byteLength before) after with
      | ok later =>
          rw [nested] at failed
          cases failed
      | error met =>
          rw [nested] at failed ih
          cases failed
          obtain ⟨front, back, made, fails⟩ := ih rfl
          obtain ⟨piece, joins⟩ := literal_of_break offset unmarked uncommented found
          obtain ⟨rfl, _⟩ := append_of_breakAt? found
          exact ⟨_, _, _, fails.cons piece joins fun marked => absurd marked unmarked⟩

end Outline

/-! ### What an error says -/

/-- What a source with an error is like where the error is. -/
def TemplateError.Reason (source : Source) : TemplateError → Prop
  | .unterminatedComment span =>
      span.stop = source.size ∧
        ∃ inner, source.LeavesAt span.start ('/' :: '*' :: inner) ∧ ¬ ['*', '/'] <:+: inner
  | .unterminatedString span =>
      span.stop = source.size ∧
        ∃ quote inner, source.LeavesAt span.start (quote :: inner) ∧
          (quote = '\x22' ∨ quote = '\x27') ∧ quote ∉ unescaped inner
  | .unterminatedDirective opening =>
      ∃ trimLeft items,
        source.LeavesAt opening.start (Outline.openMarker trimLeft ++ Item.join items) ∧
        opening.stop = opening.start + Outline.openWidth trimLeft ∧
        (trimLeft = false → ¬ ['-'] <+: Item.join items) ∧ Item.Written [] items ∧
        ∀ place rest, opening.stop ≤ place → source.LeavesAt place ('%' :: ']' :: rest) →
          ∃ span ∈ Item.spans Item.encloses opening.stop items,
            span.contains ⟨place, place + 2⟩ = true

/-- An error that its source bears out. -/
structure TemplateError.Justified (error : TemplateError) (source : Source) : Prop where
  inside : error.span.start ≤ error.span.stop ∧ error.span.stop ≤ source.size
  boundaries : source.isBoundary error.span.start = true ∧ source.isBoundary error.span.stop = true
  reason : error.Reason source
  /-- In front of what is left open, or of the directive that it is in, the source has segments. -/
  origin : ∃ place front template, place ≤ error.span.start ∧ source.cut ⟨0, place⟩ = .ok front ∧
    (Source.ofText front).segment = .ok (.ok template) ∧
    (source.hasAt place Marker.directiveOpen = true ∨ source.hasAt place Marker.commentOpen = true)

namespace Outline

open Item

variable {source : Source} {offset : Nat} {text : List Char} {error : TemplateError}
  {opening : Span}

/-- An error stands at an offset or behind it, within a source that has the reason for it. -/
structure Told (source : Source) (offset : Nat) (error : TemplateError) : Prop where
  behind : offset ≤ error.span.start
  start : ∃ text, source.LeavesAt error.span.start text
  stop : ∃ text, source.LeavesAt error.span.stop text
  ordered : error.span.start ≤ error.span.stop
  reason : error.Reason source

theorem told_comment {inner : List Char} (left : source.LeavesAt offset ('/' :: '*' :: inner))
    (absent : breakAt? ['*', '/'] inner = none) :
    Told source offset
      (.unterminatedComment ⟨offset, offset + byteLength ('/' :: '*' :: inner)⟩) where
  behind := Nat.le_refl _
  start := ⟨_, left⟩
  stop := ⟨[], left.add_byteLength ▸ source.leavesAt_size⟩
  ordered := Nat.le_add_right _ _
  reason := ⟨left.add_byteLength, inner, left, breakAt?_eq_none_iff_not_infix.mp absent⟩

theorem told_string {quote : Char} {inner : List Char}
    (left : source.LeavesAt offset (quote :: inner)) (quoted : quote = '\x22' ∨ quote = '\x27')
    (absent : splitString? quote inner = none) :
    Told source offset (.unterminatedString ⟨offset, offset + byteLength (quote :: inner)⟩) where
  behind := Nat.le_refl _
  start := ⟨_, left⟩
  stop := ⟨[], left.add_byteLength ▸ source.leavesAt_size⟩
  ordered := Nat.le_add_right _ _
  reason := by
    have other : quote ≠ '\\' := by
      rcases quoted with rfl | rfl <;> decide
    exact ⟨left.add_byteLength, quote, inner, left, quoted,
      (splitString?_eq_none_iff other inner).mp absent⟩

theorem told_directive {trimLeft : Bool} {items : List Item}
    (left : source.LeavesAt offset (openMarker trimLeft ++ join items))
    (undashed : trimLeft = false → ¬ ['-'] <+: join items) (written : Written [] items) :
    Told source offset (.unterminatedDirective ⟨offset, offset + openWidth trimLeft⟩) := by
  have inner := left.drop
  rw [byteLength_openMarker] at inner
  refine ⟨Nat.le_refl _, ⟨_, left⟩, ⟨_, inner⟩, Nat.le_add_right _ _, trimLeft, items, left, rfl,
    undashed, written, ?_⟩
  intro place rest ordered closed
  obtain ⟨between, parts, rfl⟩ := inner.split closed ordered
  obtain ⟨span, member, start, stop⟩ :=
    written.enclosed (offset + openWidth trimLeft) parts (List.prefix_append ['%', ']'] rest)
  refine ⟨span, member, ?_⟩
  rw [Span.contains, Bool.and_eq_true, decide_eq_true_eq, decide_eq_true_eq]
  exact ⟨start, stop⟩

theorem Broken.told (broken : Broken offset text error) (left : source.LeavesAt offset text) :
    Told source offset error := by
  cases broken with
  | comment absent => exact told_comment left absent
  | @directive items tail _ trimLeft undashed written leftOpen =>
      have inner := left.drop
      rw [byteLength_openMarker] at inner
      have further : ∀ {error}, Told source (offset + openWidth trimLeft +
          byteLength (join items)) error → Told source offset error := by
        intro error told
        have := told.behind
        exact { told with behind := by omega }
      cases leftOpen with
      | directive =>
          rw [List.append_nil] at left undashed
          exact told_directive left undashed written
      | comment absent => exact further (told_comment inner.drop absent)
      | string quoted absent => exact further (told_string inner.drop quoted absent)

theorem Broken.opens (broken : Broken offset text error) :
    ['[', '%'] <+: text ∨ ['/', '*'] <+: text := by
  cases broken with
  | comment => exact .inr (List.prefix_append ['/', '*'] _)
  | directive trimLeft => exact .inl (directiveOpen_isPrefix trimLeft _)

end Outline

namespace Source

variable {source : Source} {error : TemplateError}

/-- A source without a template, up to where it fails and from there. -/
theorem failsBehind_of_segment (failed : source.segment = .ok (.error error)) :
    ∃ front back made, Outline.FailsBehind 0 source.chars error front back made := by
  have outlined := source.segment_eq_ok_iff.mp failed
  cases outline : Outline.segments 0 source.chars with
  | ok made =>
      rw [outline] at outlined
      cases outlined
  | error met =>
      rw [outline] at outlined
      cases outlined
      exact Outline.pieces_of_error outline

/-- The source of the text in front of a place has the segments of the pieces there. -/
theorem segment_of_pieces {front : List Char} {made : List Segment}
    (row : Outline.Pieces 0 front made) :
    (ofText (String.ofList front)).segment = .ok (.ok ⟨made⟩) := by
  have outlined := Outline.segments_eq_ok_iff.mpr row
  rw [segment_eq_ok_iff]
  have characters : (ofText (String.ofList front)).chars = front := String.toList_ofList
  rw [characters, outlined]
  rfl

end Source

end TemplateScan
