import TemplateScan.Proofs.Template.Failure
import TemplateScan.Proofs.Template.Tiling

/-! # What completes a source

A source that cannot be segmented lacks the end of what it leaves open, and nothing else: with that
end put behind it, its last segment is the one that was open, and the segments in front are those of
the source up to there (`Source.repaired_of_error`). A string and a comment in a directive are ended
first, and the directive is open then.
-/

namespace TemplateScan

/-- Text put behind a text completes its last segment. In front of that segment the text has the
segments that it has when it ends there. -/
structure Completes (text more : String) (before : List Segment) (last : Segment) : Prop where
  segmented : (Source.ofText (text ++ more)).segment = .ok (.ok ⟨before ++ [last]⟩)
  earlier : ∃ front, (Source.ofText text).cut ⟨0, last.span.start⟩ = .ok front ∧
    (Source.ofText front).segment = .ok (.ok ⟨before⟩)

/-- Text put behind a text leaves it with an open directive, and one more marker closes that. -/
structure Reopens (text more : String) (opening : Span) (before : List Segment)
    (d : Directive) : Prop where
  open_ : (Source.ofText (text ++ more)).segment = .ok (.error (.unterminatedDirective opening))
  closed : Completes text (more ++ "%]") before (.directive d)
  opening_eq : d.opening = opening

/-- What completes a text with an error. -/
def TemplateError.Repaired (text : String) : TemplateError → Prop
  | .unterminatedDirective opening =>
      ∃ before d, Completes text "%]" before (.directive d) ∧ d.opening = opening ∧
        d.closing.stop = (Source.ofText text).size + 2
  | .unterminatedComment span =>
      span.stop = (Source.ofText text).size ∧
        ((∃ before, Completes text "*/" before (.comment ⟨span.start, span.stop + 2⟩)) ∨
          ∃ opening before d, opening.stop ≤ span.start ∧ Reopens text "*/" opening before d ∧
            d.comments.getLast? = some ⟨span.start, span.stop + 2⟩)
  | .unterminatedString span =>
      span.stop = (Source.ofText text).size ∧
        ∃ quote opening before d, (Source.ofText text).charAt? span.start = some quote ∧
          opening.stop ≤ span.start ∧
          Reopens text (String.ofList ['x', quote]) opening before d

/-- A string that does not end is ended by its quote behind a character that is not. -/
theorem splitString?_ended {quote : Char} (quoted : quote = '\x22' ∨ quote = '\x27')
    {text : List Char} (absent : splitString? quote text = none) :
    splitString? quote (text ++ ['x', quote]) = some (text ++ ['x', quote], []) := by
  have letter : ¬ 'x' = quote := by
    rcases quoted with rfl | rfl <;> decide
  fun_induction splitString? quote text with
  | case1 =>
      rw [List.nil_append, splitString?_cons_plain letter (by decide), splitString?_cons_quote]
      rfl
  | case2 => cases absent
  | case3 different =>
      rw [List.singleton_append, splitString?_cons_escape different, splitString?_cons_quote]
      rfl
  | case4 escaped text different ih =>
      rw [Option.map_eq_none_iff] at absent
      rw [List.cons_append, List.cons_append, splitString?_cons_escape different, ih absent]
      rfl
  | case5 c text different plain ih =>
      rw [Option.map_eq_none_iff] at absent
      rw [List.cons_append, splitString?_cons_plain different plain, ih absent]
      rfl

namespace Item

open Outline (closeMarker)

variable {items : List Item}

/-- The marker that closes a directive takes a dash with it that stands in front, and leaves all
other items as they are. -/
theorem Written.closed (written : Written [] items) :
    ∃ inner trimRight, join items ++ ['%', ']'] = join inner ++ closeMarker trimRight ∧
      Written (closeMarker trimRight) inner ∧ (items = inner ∨ items = inner ++ [.plain '-']) := by
  induction items with
  | nil => exact ⟨[], false, rfl, trivial, .inl rfl⟩
  | cons item items ih =>
      obtain ⟨stands, later⟩ := written
      rw [List.append_nil] at stands
      obtain ⟨inner, trimRight, parts, written, same⟩ := ih later
      have behind : item.Stands (join items ++ ['%', ']']) ∨ item = .plain '-' ∧ items = [] := by
        cases item with
        | comment => exact .inl stands
        | string => exact .inl stands
        | plain c =>
            rcases plain_closing stands with plain | ⟨rfl, nothing⟩
            · exact .inl plain
            · refine .inr ⟨rfl, ?_⟩
              cases items with
              | nil => rfl
              | cons first items =>
                  exact absurd (List.append_eq_nil_iff.mp nothing).1 first.text_ne_nil
      rcases behind with stands | ⟨rfl, rfl⟩
      · refine ⟨item :: inner, trimRight, ?_, ⟨?_, written⟩, ?_⟩
        · rw [join_cons, join_cons, List.append_assoc, parts, List.append_assoc]
        · rwa [← parts]
        · rcases same with rfl | rfl
          · exact .inl rfl
          · exact .inr rfl
      · exact ⟨[], true, rfl, trivial, .inr rfl⟩

end Item

namespace Outline

open Item

variable {offset : Nat} {text front back more : List Char} {items : List Item}
  {error : TemplateError} {made : List Segment} {trimLeft : Bool}

theorem body_open (opening : Span) (offset : Nat) (written : Written [] items) :
    body opening offset (join items) = .error (.unterminatedDirective opening) := by
  have read := body_of_written opening offset written
  rw [List.append_nil, body_nil] at read
  exact read

theorem body_closed (opening : Span) (offset : Nat) (written : Written [] items) :
    ∃ found, body opening offset (join items ++ ['%', ']']) = .ok (found, []) ∧
      found.comments = spans isComment offset items ∧
      found.closing.stop = offset + byteLength (join items) + 2 := by
  obtain ⟨inner, trimRight, parts, inside, same⟩ := written.closed
  have read := body_of_written opening offset inside
  have closing := body_of_closing opening (offset + byteLength (join inner))
    (@List.prefix_rfl _ (closeMarker trimRight))
  rw [closing, List.drop_length] at read
  refine ⟨_, (congrArg (body opening offset) parts).trans read, ?_, ?_⟩
  · have plain : spans isComment (offset + byteLength (join inner)) [.plain '-'] = [] := rfl
    rcases same with rfl | rfl
    · simp [Body.withComments]
    · simp [Body.withComments, spans_append, plain]
  · have width := congrArg byteLength parts
    have marker : byteLength ['%', ']'] = 2 := rfl
    rw [byteLength_append, byteLength_append, marker] at width
    dsimp only [Body.withComments]
    omega

/-- A directive of items only is open, and the marker that closes directives closes it. -/
structure Closable (offset : Nat) (trimLeft : Bool) (items : List Item) (d : Directive) :
    Prop where
  open_ : segments offset (openMarker trimLeft ++ join items) =
    .error (.unterminatedDirective ⟨offset, offset + openWidth trimLeft⟩)
  closed : segments offset (openMarker trimLeft ++ join items ++ ['%', ']']) =
    .ok [.directive d]
  opening : d.opening = ⟨offset, offset + openWidth trimLeft⟩
  comments : d.comments = spans isComment (offset + openWidth trimLeft) items
  stop : d.closing.stop = offset + openWidth trimLeft + byteLength (join items) + 2

theorem exists_closable (offset : Nat) (undashed : trimLeft = false → ¬ ['-'] <+: join items)
    (written : Written [] items) : ∃ d, Closable offset trimLeft items d := by
  obtain ⟨found, read, comments, stop⟩ := body_closed ⟨offset, offset + openWidth trimLeft⟩
    (offset + openWidth trimLeft) written
  have apart : trimLeft = false → ¬ ['-'] <+: join items ++ ['%', ']'] := by
    intro plain dashed
    cases inside : join items with
    | nil =>
        rw [inside] at dashed
        exact absurd (List.cons_prefix_cons.mp dashed).1 (by decide)
    | cons c rest =>
        rw [inside, isPrefix_append_iff _ (by simp)] at dashed
        exact undashed plain (by rwa [inside])
  refine ⟨found.directive ⟨offset, offset + openWidth trimLeft⟩ trimLeft, ?_, ?_, rfl, comments,
    stop⟩
  · rw [segments_of_openMarker offset undashed, body_open _ _ written]
    rfl
  · rw [List.append_assoc, segments_of_openMarker offset apart, read]
    simp only [Except.bind, segments_nil]
    rfl

theorem Broken.ne_nil (broken : Broken offset text error) : text ≠ [] := by
  rintro rfl
  rcases broken.opens with impossible | impossible
  · cases List.prefix_nil.mp impossible
  · cases List.prefix_nil.mp impossible

/-- Text put behind a text that fails changes nothing in front of where it fails. -/
theorem FailsBehind.segments_append (fails : FailsBehind offset text error front back made)
    (more : List Char) :
    segments offset (text ++ more) =
      (segments (offset + byteLength front) (back ++ more)).map (made ++ ·) := by
  rw [fails.parts, List.append_assoc]
  exact fails.row.segments_append (fails.joins.append fails.broken.ne_nil more)

theorem start_of_segments {first : Segment} {later : List Segment}
    (outlined : segments offset text = .ok (first :: later)) : first.span.start = offset :=
  (covers_of_segments outlined).tile.1

end Outline

namespace Source

open Outline

variable {text : String} {error : TemplateError} {front back : List Char}
  {made : List Segment}

theorem segment_of_outline {outcome : Except TemplateError (List Segment)}
    {characters : List Char} (same : text.toList = characters)
    (outlined : segments 0 characters = outcome) :
    (ofText text).segment = .ok (outcome.map Template.mk) := by
  rw [segment_eq_ok_iff, ← outlined, ← same]
  rfl

theorem completes_of_segments (fails : FailsBehind 0 text.toList error front back made)
    {more : String} {last : Segment}
    (closed : segments (0 + byteLength front) (back ++ more.toList) = .ok [last]) :
    Completes text more made last := by
  have outlined := fails.segments_append more.toList
  rw [closed] at outlined
  have whole := (ofText text).leavesAt_zero
  have parts : (ofText text).chars = front ++ back := fails.parts
  rw [parts] at whole
  refine ⟨segment_of_outline String.toList_append outlined, String.ofList front, ?_,
    segment_of_pieces fails.row⟩
  rw [start_of_segments closed]
  exact whole.cut_eq

theorem fails_of_segments (fails : FailsBehind 0 text.toList error front back made)
    {more : String} {met : TemplateError}
    (failed : segments (0 + byteLength front) (back ++ more.toList) = .error met) :
    (ofText (text ++ more)).segment = .ok (.error met) := by
  have outlined := fails.segments_append more.toList
  rw [failed] at outlined
  exact segment_of_outline String.toList_append outlined

theorem size_of_failsBehind (fails : FailsBehind 0 text.toList error front back made) :
    (ofText text).size = 0 + byteLength front + byteLength back := by
  have parts : (ofText text).chars = front ++ back := fails.parts
  rw [← byteLength_chars, parts, byteLength_append, Nat.zero_add]

theorem completes_comment {inner : List Char} (absent : breakAt? ['*', '/'] inner = none)
    (fails : FailsBehind 0 text.toList error front ('/' :: '*' :: inner) made) :
    Completes text "*/" made (.comment ⟨0 + byteLength front,
      0 + byteLength front + byteLength ('/' :: '*' :: inner) + 2⟩) := by
  have closes := breakAt?_append_of_none (by decide) absent (@List.prefix_rfl _ ['*', '/'])
  have piece : Piece (0 + byteLength front) _ _ := .comment closes
  have outlined := segments_eq_ok_iff.mpr piece.alone
  have width : byteLength ('/' :: '*' :: inner) = 2 + byteLength inner :=
    byteLength_append ['/', '*'] inner
  apply completes_of_segments fails
  rw [width, ← Nat.add_assoc]
  exact outlined

/-- An item that is open at the end of a text is ended by what it lacks, and the directive that it
is in is then open. -/
theorem exists_reopens {items : List Item} {c : Char} {tail : List Char} {trimLeft : Bool}
    {item : Item} {more : String}
    (fails : FailsBehind 0 text.toList error front
      (openMarker trimLeft ++ (Item.join items ++ c :: tail)) made)
    (undashed : trimLeft = false → ¬ ['-'] <+: Item.join items ++ c :: tail)
    (written : Item.Written (c :: tail) items) (apart : c ∉ ['*', '%', ']'])
    (stands : item.Stands []) (ended : item.text = c :: tail ++ more.toList) :
    ∃ d, Reopens text more
        ⟨0 + byteLength front, 0 + byteLength front + openWidth trimLeft⟩ made d ∧
      d.comments = Item.spans Item.isComment (0 + byteLength front + openWidth trimLeft)
        (items ++ [item]) := by
  have row : Item.Written [] (items ++ [item]) := by
    rw [Item.written_append]
    refine ⟨?_, stands, trivial⟩
    rw [Item.join_cons, Item.join_nil, List.append_nil, List.append_nil, ended]
    exact written.append apart more.toList
  have whole : Item.join (items ++ [item]) = Item.join items ++ c :: tail ++ more.toList := by
    simp [ended]
  have plain : trimLeft = false → ¬ ['-'] <+: Item.join (items ++ [item]) := by
    intro untrimmed
    have fits : ['-'].length ≤ (Item.join items ++ c :: tail).length :=
      List.length_pos_iff.mpr (by simp)
    rw [whole, isPrefix_append_iff _ fits]
    exact undashed untrimmed
  obtain ⟨d, closable⟩ := exists_closable (0 + byteLength front) plain row
  have parts : openMarker trimLeft ++ (Item.join items ++ c :: tail) ++ more.toList =
      openMarker trimLeft ++ Item.join (items ++ [item]) := by
    rw [whole, List.append_assoc]
  refine ⟨d, ⟨?_, ?_, closable.opening⟩, closable.comments⟩
  · apply fails_of_segments fails
    rw [parts]
    exact closable.open_
  · apply completes_of_segments fails
    rw [String.toList_append, ← List.append_assoc, parts]
    exact closable.closed

theorem repaired_directive {items : List Item} {tail : List Char} {trimLeft : Bool}
    (fails : FailsBehind 0 text.toList error front
      (openMarker trimLeft ++ (Item.join items ++ tail)) made)
    (undashed : trimLeft = false → ¬ ['-'] <+: Item.join items ++ tail)
    (written : Item.Written tail items)
    (leftOpen : LeftOpen ⟨0 + byteLength front, 0 + byteLength front + openWidth trimLeft⟩
      (0 + byteLength front + openWidth trimLeft + byteLength (Item.join items)) tail error) :
    error.Repaired text := by
  have size := size_of_failsBehind fails
  rw [byteLength_append, byteLength_openMarker, byteLength_append, ← Nat.add_assoc,
    ← Nat.add_assoc] at size
  have quoted_apart : ∀ quote : Char, quote = '\x22' ∨ quote = '\x27' →
      quote ∉ ['*', '%', ']'] := by
    rintro quote (rfl | rfl) <;> decide
  cases leftOpen with
  | directive =>
      rw [List.append_nil] at undashed
      obtain ⟨d, closable⟩ := exists_closable (0 + byteLength front) undashed written
      refine ⟨made, d, ?_, closable.opening, ?_⟩
      · apply completes_of_segments fails
        rw [List.append_nil]
        exact closable.closed
      · rw [closable.stop, size, byteLength_nil, Nat.add_zero]
  | @comment inner absent =>
      have closes := breakAt?_append_of_none (by decide) absent (@List.prefix_rfl _ ['*', '/'])
      have ended : (Item.comment inner).text = '/' :: '*' :: inner ++ "*/".toList := rfl
      have stands : (Item.comment inner).Stands [] := closes
      obtain ⟨d, reopens, comments⟩ :=
        exists_reopens fails undashed written (by decide) stands ended
      refine ⟨size.symm, .inr ⟨_, made, d, Nat.le_add_right _ _, reopens, ?_⟩⟩
      have width : byteLength (Item.comment inner).text =
          byteLength ('/' :: '*' :: inner) + 2 := byteLength_append ('/' :: '*' :: inner) ['*', '/']
      have last : ∀ start, Item.spans Item.isComment start [.comment inner] =
          [⟨start, start + byteLength ('/' :: '*' :: inner) + 2⟩] := by
        intro start
        rw [Nat.add_assoc, ← width]
        rfl
      rw [comments, Item.spans_append, last, List.getLast?_concat]
  | @string quote inner quoted absent =>
      have ended : (Item.string quote (inner ++ ['x', quote])).text =
          quote :: inner ++ (String.ofList ['x', quote]).toList := by
        rw [String.toList_ofList]
        rfl
      have stands : (Item.string quote (inner ++ ['x', quote])).Stands [] :=
        ⟨quoted, splitString?_ended quoted absent⟩
      obtain ⟨d, reopens, _⟩ :=
        exists_reopens fails undashed written (quoted_apart quote quoted) stands ended
      refine ⟨size.symm, quote, _, made, d, ?_, Nat.le_add_right _ _, reopens⟩
      have whole := (ofText text).leavesAt_zero
      have parts : (ofText text).chars = _ := fails.parts
      rw [parts] at whole
      have inside := whole.drop.drop
      rw [byteLength_openMarker] at inside
      exact inside.drop.charAt?_eq

/-- **Errors are repaired.** What a source with an error lacks is the end of what is open. -/
theorem repaired_of_error (failed : (ofText text).segment = .ok (.error error)) :
    error.Repaired text := by
  obtain ⟨front, back, made, fails⟩ := failsBehind_of_segment failed
  have fails : FailsBehind 0 text.toList error front back made := fails
  have size := size_of_failsBehind fails
  have broken := fails.broken
  cases broken with
  | comment absent => exact ⟨size.symm, .inl ⟨made, completes_comment absent fails⟩⟩
  | directive trimLeft undashed written leftOpen =>
      exact repaired_directive fails undashed written leftOpen

/-- A string that is open at the end, with an escape sign there, behind a comment. -/
theorem repaired_of_error_escape :
    (ofText "é[%-/*%]*/'\\").segment = .ok (.error (.unterminatedString ⟨11, 13⟩)) ∧
      (TemplateError.unterminatedString ⟨11, 13⟩).Repaired "é[%-/*%]*/'\\" := by
  have failed : (ofText "é[%-/*%]*/'\\").segment =
      .ok (.error (.unterminatedString ⟨11, 13⟩)) := by
    with_unfolding_all rfl
  exact ⟨failed, repaired_of_error failed⟩

end Source

end TemplateScan
