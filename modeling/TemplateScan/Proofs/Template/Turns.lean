import TemplateScan.Proofs.Template.Repair

/-! # Turns over pieces and items

A turn between directives takes a piece or opens a directive (`Move.Outside`), and a turn in a
directive takes an item or closes it (`Move.Inside`). So wherever a walk is, the text behind it is a
row of pieces, and in a directive an opening marker and what has been read of the body behind them
(`Outline.Stage`). Where a walk fails, a directive is open exactly if one is open at the end of the
text in front of the error (`Outline.Stage.inDirective_iff`).
-/

namespace TemplateScan

open Outline (Piece Joins LeftOpen openWidth trimsLeft closeMarker)

variable {offset : Nat} {text : List Char} {d : OpenDirective}

/-- A row of items needs nothing behind it. -/
theorem Item.Written.alone {items : List Item} (written : Written text items) :
    Written [] items := by
  induction items with
  | nil => trivial
  | cons item items ih =>
      refine ⟨?_, ih written.2⟩
      rw [List.append_nil]
      cases item with
      | comment => exact written.1
      | string => exact written.1
      | plain c => exact Outline.Plain.of_append written.1

/-- The token that an item at an offset is taken as. -/
def Item.token? (item : Item) (offset : Nat) : Option Token :=
  if item.isComment then some ⟨.comment, ⟨offset, offset + byteLength item.text⟩⟩ else none

/-- An open directive behind one more item. -/
def OpenDirective.past (d : OpenDirective) (offset : Nat) (item : Item) : OpenDirective :=
  if item.isComment then
    { d with comments := d.comments.push ⟨offset, offset + byteLength item.text⟩ }
  else d

theorem OpenDirective.past_eq (d : OpenDirective) (offset : Nat) (item : Item) :
    ∃ comments, d.past offset item = ⟨d.opening, d.trimLeft, comments⟩ ∧
      comments.toList = d.comments.toList ++ Item.spans Item.isComment offset [item] := by
  rw [past, Item.spans, Item.spans]
  cases item.isComment with
  | false => exact ⟨_, rfl, (List.append_nil _).symm⟩
  | true => exact ⟨_, rfl, Array.toList_push⟩

namespace Move

/-- The attempts in a turn that takes a piece. Literal text is refused at a slash at first. -/
def attempts (front : List Char) : Segment → List Event
  | .content span =>
      if front.head? = some '/' then
        [.scanned span.start .everything none, .slashRescanned span.start,
          .scanned span.start (.only .content) (some ⟨.content, span⟩)]
      else
        [.scanned span.start .everything (some ⟨.content, span⟩)]
  | .comment span => [.scanned span.start .everything (some ⟨.comment, span⟩)]
  | .directive _ => []

/-- What a turn between directives comes to, by what stands there. -/
inductive Outside (offset : Nat) : List Char → Move → Prop
  | finish : Outside offset [] .finish
  | opening {text : List Char} (marked : ['[', '%'] <+: text) :
      Outside offset text
        (.go (offset + openWidth (trimsLeft text))
          (some ⟨⟨offset, offset + openWidth (trimsLeft text)⟩, trimsLeft text, #[]⟩) []
          [.scanned offset .everything none,
            .directiveOpened ⟨offset, offset + openWidth (trimsLeft text)⟩ (trimsLeft text)])
  | piece {front back : List Char} {segment : Segment} (piece : Piece offset front segment)
      (joins : Joins [segment] back) (unmarked : ¬ ['[', '%'] <+: front ++ back) :
      Outside offset (front ++ back)
        (.go (offset + byteLength front) none [segment] (attempts front segment))
  | leftOpen (text : List Char) :
      Outside offset text
        (.fail (.unterminatedComment ⟨offset, offset + byteLength text⟩)
          [.scanned offset .everything none])

/-- What a turn in a directive comes to, by what stands behind the blanks at its start. -/
inductive Inside (d : OpenDirective) (start offset : Nat) : List Char → Move → Prop
  | item {item : Item} {back : List Char} (stands : item.Stands back) :
      Inside d start offset (item.text ++ back)
        (.go (offset + byteLength item.text) (some (d.past offset item)) []
          [.scanned start (.only .comment) (item.token? offset)])
  | closing (trimRight : Bool) (rest : List Char) :
      Inside d start offset (closeMarker trimRight ++ rest)
        (.go (offset + byteLength (closeMarker trimRight)) none
          [.directive (d.close ⟨offset, offset + byteLength (closeMarker trimRight)⟩ trimRight)]
          [.scanned start (.only .comment) none,
            .directiveClosed ⟨offset, offset + byteLength (closeMarker trimRight)⟩
              d.comments.size])
  | leftOpen {text : List Char} {error : TemplateError}
      (leftOpen : LeftOpen d.opening offset text error) :
      Inside d start offset text (.fail error [.scanned start (.only .comment) none])

theorem outside_content (nonempty : text ≠ []) (unmarked : ¬ ['[', '%'] <+: text)
    (uncommented : ¬ ['/', '*'] <+: text) :
    ∃ front back, text = front ++ back ∧
      contentSpan offset text = ⟨offset, offset + byteLength front⟩ ∧
      Piece offset front (.content ⟨offset, offset + byteLength front⟩) ∧
      Joins [.content ⟨offset, offset + byteLength front⟩] back := by
  rw [contentSpan, firstAt?]
  cases found : breakAt? ['[', '%'] text with
  | none =>
      exact ⟨text, [], (List.append_nil text).symm, rfl, .content nonempty found uncommented,
        fun _ _ => .inl rfl⟩
  | some parts =>
      obtain ⟨piece, joins⟩ := Outline.literal_of_break offset unmarked uncommented found
      exact ⟨parts.1, parts.2, (append_of_breakAt? found).1, rfl, piece, joins⟩

theorem outside_told (offset : Nat) (text : List Char) :
    Outside offset text (.outside offset text) := by
  rw [outside]
  by_cases empty : text = []
  · subst empty
    rw [if_pos rfl]
    exact .finish
  rw [if_neg empty]
  by_cases marked : ['[', '%'] <+: text
  · rw [if_pos marked]
    exact .opening marked
  rw [if_neg marked]
  by_cases commented : ['/', '*'] <+: text
  · rw [if_pos commented]
    cases found : breakAt? ['*', '/'] (text.drop 2) with
    | none => exact .leftOpen text
    | some parts =>
        obtain ⟨inner, after⟩ := parts
        have piece : Piece offset _ _ := .comment (breakAt?_alone found)
        rw [append_of_comment commented found] at marked ⊢
        have taken := Outside.piece piece (.of_other (by simp) (after.drop 2)) marked
        rw [Outline.add_byteLength_comment] at taken
        exact taken
  rw [if_neg commented]
  obtain ⟨front, back, rfl, span, piece, joins⟩ := outside_content empty marked commented
  have first : (front ++ back).head? = front.head? := by
    cases front with
    | nil => exact absurd rfl piece.ne_nil
    | cons c front => rfl
  rw [span, first]
  exact .piece piece joins marked

theorem code_told (start : Nat) (refused : commentAt? offset text = none) :
    Inside d start offset text
      (.code d offset text [.scanned start (.only .comment) none]) := by
  cases text with
  | nil => exact .leftOpen .directive
  | cons c text =>
      rw [code]
      by_cases trimmed : ['-', '%', ']'] <+: c :: text
      · rw [if_pos trimmed]
        obtain ⟨rest, parts⟩ := trimmed
        rw [← parts]
        exact .closing true rest
      rw [if_neg trimmed]
      by_cases closed : ['%', ']'] <+: c :: text
      · rw [if_pos closed]
        obtain ⟨rest, parts⟩ := closed
        rw [← parts]
        exact .closing false rest
      rw [if_neg closed]
      by_cases commented : ['/', '*'] <+: c :: text
      · rw [commentAt?_of_opening commented, Option.map_eq_none_iff] at refused
        rw [if_pos commented]
        obtain ⟨inner, parts⟩ := commented
        rw [← parts] at refused ⊢
        exact .leftOpen (.comment refused)
      rw [if_neg commented]
      by_cases quoted : c = '\x22' ∨ c = '\x27'
      · rw [if_pos quoted]
        cases found : splitString? c text with
        | none => exact .leftOpen (.string quoted found)
        | some parts =>
            obtain ⟨literal, after⟩ := parts
            have stands : (Item.string c literal).Stands after :=
              ⟨quoted, splitString?_alone found⟩
            have taken := @Inside.item d start offset _ _ stands
            rw [Item.text, byteLength_cons, Outline.utf8Size_of_quote quoted,
              ← Nat.add_assoc, List.cons_append, ← append_of_splitString? found] at taken
            exact taken
      · rw [if_neg quoted]
        have stands : (Item.plain c).Stands text := ⟨commented, trimmed, closed, quoted⟩
        exact @Inside.item d start offset _ _ stands

theorem item_of_commentAt? {token : Token} (accepted : commentAt? offset text = some token) :
    ∃ inner back, text = (Item.comment inner).text ++ back ∧ (Item.comment inner).Stands back ∧
      token = ⟨.comment, ⟨offset, offset + byteLength (Item.comment inner).text⟩⟩ := by
  by_cases commented : ['/', '*'] <+: text
  · rw [commentAt?_of_opening commented] at accepted
    obtain ⟨⟨inner, after⟩, found, rfl⟩ := Option.map_eq_some_iff.mp accepted
    refine ⟨inner, after.drop 2, append_of_comment commented found, breakAt?_alone found, ?_⟩
    rw [Item.text, Outline.add_byteLength_comment]
  · rw [commentAt?_of_no_opening commented] at accepted
    cases accepted

theorem inside_told (d : OpenDirective) (offset : Nat) (text : List Char) :
    Inside d offset (offset + byteLength (text.takeWhile isBlank)) (text.dropWhile isBlank)
      (.inside d offset text) := by
  rw [inside]
  cases attempt : tokenAt? (.only .comment) offset text with
  | none => exact code_told offset attempt
  | some token =>
      obtain ⟨inner, back, parts, stands, rfl⟩ := item_of_commentAt? attempt
      rw [parts]
      exact .item stands

end Move

namespace Outline

open Item

variable {chars front back : List Char} {made added : List Segment} {segment : Segment}
  {pending later : Option OpenDirective} {next : Nat} {events : List Event}
  {error : TemplateError}

/-- Where a walk over a text is: behind a row of pieces, or behind such a row and in a directive of
which the body has been read up to there. -/
inductive Stage (chars : List Char) (made : List Segment) (offset : Nat) (text : List Char) :
    Option OpenDirective → Prop
  | between {front : List Char} (parts : chars = front ++ text) (width : offset = byteLength front)
      (row : Pieces 0 front made) (joins : Joins made text) : Stage chars made offset text none
  | within {front back : List Char} {opening : Span} {comments : Array Span}
      (parts : chars = front ++ back) (row : Pieces 0 front made) (marked : ['[', '%'] <+: back)
      (opens : opening = ⟨byteLength front, byteLength front + openWidth (trimsLeft back)⟩)
      (read : body opening opening.stop (back.drop (openWidth (trimsLeft back))) =
        (body opening offset text).map fun parts =>
          (parts.1.withComments comments.toList, parts.2)) :
      Stage chars made offset text (some ⟨opening, trimsLeft back, comments⟩)

theorem Pieces.snoc (row : Pieces 0 front made) (joins : Joins made text)
    (piece : Piece (byteLength front) text segment) :
    Pieces 0 (front ++ text) (made ++ [segment]) := by
  have alone := segments_eq_ok_iff.mpr piece.alone
  rw [← segments_eq_ok_iff, row.segments_append joins, Nat.zero_add, alone]
  rfl

theorem Joins.snoc (joins : Joins [segment] back) : Joins (made ++ [segment]) back := by
  intro span last
  rw [List.getLast?_concat] at last
  exact joins span last

/-- What stands behind literal text starts a directive, so no other piece stands there. -/
theorem Joins.of_unmarked (joins : Joins made text) (nonempty : text ≠ [])
    (unmarked : ¬ ['[', '%'] <+: text) (other : List Char) : Joins made other := by
  intro span last
  rcases joins span last with empty | marked
  · exact absurd empty nonempty
  · exact absurd marked unmarked

theorem LeftOpen.body_eq {opening : Span} (leftOpen : LeftOpen opening offset text error) :
    body opening offset text = .error error := by
  cases leftOpen with
  | directive => exact body_nil opening offset
  | @comment inner absent =>
      have commented : ['/', '*'] <+: '/' :: '*' :: inner := List.prefix_append ['/', '*'] inner
      rw [body_of_comment opening offset commented, List.drop_succ_cons, List.drop_succ_cons,
        List.drop_zero, absent]
  | string quoted absent => rw [body_of_string opening offset _ quoted, absent]

/-- What is found of a body behind some comments and an item. -/
theorem body_past (opening : Span) (comments : List Span) {item : Item}
    (stands : item.Stands back) :
    ((body opening offset (item.text ++ back)).map fun parts =>
        (parts.1.withComments comments, parts.2)) =
      (body opening (offset + byteLength item.text) back).map fun parts =>
        (parts.1.withComments (comments ++ spans isComment offset [item]), parts.2) := by
  rw [body_of_stands opening offset stands, map_map]
  congr 1
  funext parts
  simp only [Function.comp_apply, Body.withComments, List.append_assoc]

namespace Stage

theorem outside_after (stage : Stage chars made offset text none)
    (told : Move.outside offset text = .go next later added events) :
    ∃ front back, text = front ++ back ∧ front ≠ [] ∧ next = offset + byteLength front ∧
      Stage chars (made ++ added) next back later := by
  have turn := Move.outside_told offset text
  rw [told] at turn
  cases stage with
  | @between behind parts width row joins =>
      cases turn with
      | opening marked =>
          refine ⟨_, _, append_of_openMarker marked, ?_, ?_, ?_⟩
          · cases trimsLeft text <;> exact List.cons_ne_nil _ _
          · rw [byteLength_openMarker]
          · rw [List.append_nil, width]
            exact .within parts row marked rfl (map_id_of_eq (fun _ => rfl) _).symm
      | @piece front back segment piece near unmarked =>
          have nonempty := List.append_ne_nil_of_left_ne_nil piece.ne_nil back
          refine ⟨front, back, rfl, piece.ne_nil, rfl, ?_⟩
          rw [width] at piece
          have longer := row.snoc (joins.of_unmarked nonempty unmarked front) piece
          refine .between ?_ ?_ longer near.snoc
          · rw [parts, List.append_assoc]
          · rw [width, byteLength_append]

theorem inside_after (stage : Stage chars made offset text (some d))
    (told : Move.inside d offset text = .go next later added events) :
    ∃ front back, text = front ++ back ∧ front ≠ [] ∧ next = offset + byteLength front ∧
      Stage chars (made ++ added) next back later := by
  have turn := Move.inside_told d offset text
  have whole := List.takeWhile_append_dropWhile (p := isBlank) (l := text)
  cases stage with
  | @within behind directive opening comments parts row marked opens read =>
      rw [body_dropBlanks opening offset text] at read
      generalize text.dropWhile isBlank = left at turn whole read
      generalize text.takeWhile isBlank = blanks at turn whole read
      rw [told] at turn
      cases turn with
      | @item item back stands =>
          rw [body_past opening comments.toList stands] at read
          refine ⟨blanks ++ item.text, back, ?_, ?_, ?_, ?_⟩
          · rw [List.append_assoc, whole]
          · exact List.append_ne_nil_of_right_ne_nil _ item.text_ne_nil
          · rw [byteLength_append, ← Nat.add_assoc]
          · obtain ⟨more, past, listed⟩ := OpenDirective.past_eq
              ⟨opening, trimsLeft directive, comments⟩ (offset + byteLength blanks) item
            rw [← listed] at read
            rw [List.append_nil, past]
            exact .within parts row marked opens read
      | closing trimRight rest =>
          have closed := body_of_closing opening (offset + byteLength blanks)
            (List.prefix_append (closeMarker trimRight) rest)
          rw [closed, List.drop_left] at read
          subst opens
          obtain ⟨front, split, stop, piece⟩ := piece_of_body marked read
          refine ⟨blanks ++ closeMarker trimRight, rest, ?_, ?_, ?_, ?_⟩
          · rw [List.append_assoc, whole]
          · exact List.append_ne_nil_of_right_ne_nil _ (closeMarker_ne_nil _)
          · rw [byteLength_append, ← Nat.add_assoc]
          · have opened : Joins made front := fun _ _ => .inr piece.marked
            have longer := row.snoc opened piece
            simp only [Body.withComments, Body.directive, List.append_nil] at longer
            refine .between ?_ ?_ longer (Joins.snoc (.of_other (by simp) rest))
            · rw [parts, split, List.append_assoc]
            · rw [byteLength_append]
              exact stop

end Stage

/-! ### Where a walk fails -/

/-- The text in front of what is left open in a directive leaves the directive open. -/
theorem segments_of_unread {items : List Item} {tail : List Char}
    (row : Pieces 0 front made) (marked : ['[', '%'] <+: back)
    (inside : back.drop (openWidth (trimsLeft back)) = join items ++ tail)
    (written : Written tail items) :
    segments 0 (front ++ (openMarker (trimsLeft back) ++ join items)) =
      .error (.unterminatedDirective
        ⟨byteLength front, byteLength front + openWidth (trimsLeft back)⟩) := by
  have undashed : trimsLeft back = false → ¬ ['-'] <+: join items := by
    intro plain dashed
    have apart := undashed_of_marked marked plain
    rw [inside] at apart
    exact apart (dashed.trans (List.prefix_append _ tail))
  have opened : Joins made (openMarker (trimsLeft back) ++ join items) :=
    fun _ _ => .inr (directiveOpen_isPrefix _ _)
  rw [row.segments_append opened, Nat.zero_add, segments_of_openMarker _ undashed,
    body_open _ _ written.alone]
  rfl

end Outline

/-- Where the reading of a source with an error stops: in front of a comment or a string that is
left open, or at the end. -/
def TemplateError.place (source : Source) : TemplateError → Nat
  | .unterminatedComment span => span.start
  | .unterminatedString span => span.start
  | .unterminatedDirective _ => source.size

/-- An error that arises in a directive: the text in front of its place leaves one open. -/
def TemplateError.InDirective (source : Source) (error : TemplateError) : Prop :=
  ∃ front opening, source.cut ⟨0, error.place source⟩ = .ok front ∧
    (Source.ofText front).segment = .ok (.error (.unterminatedDirective opening))

theorem TemplateError.inDirective_iff {source : Source} {error : TemplateError}
    {front tail : List Char} (parts : source.chars = front ++ tail)
    (place : error.place source = byteLength front) :
    error.InDirective source ↔
      ∃ opening, Outline.segments 0 front = .error (.unterminatedDirective opening) := by
  have whole := source.leavesAt_zero
  rw [parts] at whole
  have cut := whole.cut_eq
  rw [Nat.zero_add, ← place] at cut
  have segmented := Source.segment_eq_outline (Source.ofText (String.ofList front))
  have characters : (Source.ofText (String.ofList front)).chars = front := String.toList_ofList
  rw [characters] at segmented
  constructor
  · rintro ⟨kept, opening, kept_eq, failed⟩
    rw [cut] at kept_eq
    cases kept_eq
    rw [segmented, Except.ok.injEq] at failed
    refine ⟨opening, ?_⟩
    cases outlined : Outline.segments 0 front with
    | ok made => rw [outlined] at failed; cases failed
    | error met => rw [outlined] at failed; cases failed; rfl
  · rintro ⟨opening, outlined⟩
    refine ⟨_, opening, cut, ?_⟩
    rw [segmented, outlined]
    rfl

namespace Outline

open Item

variable {source : Source} {made : List Segment} {error : TemplateError} {events : List Event}

theorem LeftOpen.place_eq {opening : Span} {tail front : List Char}
    (leftOpen : LeftOpen opening (byteLength front) tail error)
    (parts : source.chars = front ++ tail) : error.place source = byteLength front := by
  cases leftOpen with
  | directive => rw [TemplateError.place, ← Source.byteLength_chars, parts, List.append_nil]
  | comment => rfl
  | string => rfl

theorem Stage.not_inDirective (stage : Stage source.chars made offset text none)
    (told : Move.outside offset text = .fail error events) : ¬ error.InDirective source := by
  have turn := Move.outside_told offset text
  rw [told] at turn
  cases stage with
  | @between front parts width row joins =>
      cases turn with
      | leftOpen =>
          have stuck : (TemplateError.unterminatedComment
            ⟨offset, offset + byteLength text⟩).place source = byteLength front := width
          rw [TemplateError.inDirective_iff parts stuck, segments_eq_ok_iff.mpr row]
          rintro ⟨opening, impossible⟩
          cases impossible

theorem Stage.inDirective (stage : Stage source.chars made offset text (some d))
    (told : Move.inside d offset text = .fail error events) : error.InDirective source := by
  have turn := Move.inside_told d offset text
  cases stage with
  | @within front back opening comments parts row marked opens read =>
      rw [body_dropBlanks opening offset text] at read
      generalize text.dropWhile isBlank = left at turn read
      rw [told] at turn
      cases turn with
      | leftOpen leftOpen =>
          rw [leftOpen.body_eq] at read
          subst opens
          obtain ⟨items, tail, inside, written, stuck⟩ := written_of_error read
          have split : source.chars =
              front ++ (openMarker (trimsLeft back) ++ join items) ++ tail := by
            rw [parts, List.append_assoc, List.append_assoc, ← inside,
              ← append_of_openMarker marked]
          have width : byteLength front + openWidth (trimsLeft back) + byteLength (join items) =
              byteLength (front ++ (openMarker (trimsLeft back) ++ join items)) := by
            rw [byteLength_append, byteLength_append, byteLength_openMarker, Nat.add_assoc]
          dsimp only at stuck
          rw [width] at stuck
          rw [TemplateError.inDirective_iff split (stuck.place_eq split)]
          exact ⟨_, segments_of_unread row marked inside written⟩

/-- **One turn further.** Behind a turn after which it goes on a walk is behind a row of pieces
again, or in a directive behind such a row. -/
theorem Stage.after {chars : List Char} {pending later : Option OpenDirective} {next : Nat}
    {added : List Segment} (stage : Stage chars made offset text pending)
    (told : Move.of pending offset text = .go next later added events) :
    ∃ front back, text = front ++ back ∧ front ≠ [] ∧ next = offset + byteLength front ∧
      Stage chars (made ++ added) next back later := by
  cases pending with
  | none => exact stage.outside_after told
  | some d => exact stage.inside_after told

/-- An error arises in a directive exactly where the walk is in one. -/
theorem Stage.inDirective_iff {pending : Option OpenDirective}
    (stage : Stage source.chars made offset text pending)
    (told : Move.of pending offset text = .fail error events) :
    error.InDirective source ↔ pending.isSome = true := by
  cases pending with
  | none =>
      constructor
      · exact fun inside => absurd inside (stage.not_inDirective told)
      · exact nofun
  | some d => exact ⟨fun _ => rfl, fun _ => stage.inDirective told⟩

end Outline

end TemplateScan
