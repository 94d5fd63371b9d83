import TemplateScan.Proofs.Template.Outline

/-! # Templates piece by piece

A text that can be segmented is written piece after piece: literal text, a comment, a directive.
Each piece is told from what it holds (`Outline.Piece`), and only literal text asks anything of what
stands behind it: there the text ends or a directive opens (`Outline.Joins`). The outline of a text
gives segments exactly where the text is a row of such pieces (`Outline.segments_eq_ok_iff`).
-/

namespace TemplateScan

namespace Outline

variable {opening : Span} {offset : Nat} {c : Char} {text front back rest : List Char}
  {found : Body} {first : Segment} {made later : List Segment}

/-! ### What stands behind a body -/

/-- In a directive, `c` with `text` behind it starts nothing. -/
structure Plain (c : Char) (text : List Char) : Prop where
  uncommented : ¬ ['/', '*'] <+: c :: text
  untrimmed : ¬ ['-', '%', ']'] <+: c :: text
  unclosed : ¬ ['%', ']'] <+: c :: text
  unquoted : ¬ (c = '\x22' ∨ c = '\x27')

instance (c : Char) (text : List Char) : Decidable (Plain c text) :=
  decidable_of_iff
    (¬ ['/', '*'] <+: c :: text ∧ ¬ ['-', '%', ']'] <+: c :: text ∧ ¬ ['%', ']'] <+: c :: text ∧
      ¬ (c = '\x22' ∨ c = '\x27'))
    ⟨fun ⟨a, b, c, d⟩ => ⟨a, b, c, d⟩, fun ⟨a, b, c, d⟩ => ⟨a, b, c, d⟩⟩

theorem body_of_plain (opening : Span) (offset : Nat) (plain : Plain c text) :
    body opening offset (c :: text) = body opening (offset + c.utf8Size) text := by
  rw [body, if_neg plain.uncommented, if_neg plain.untrimmed, if_neg plain.unclosed,
    if_neg plain.unquoted]

theorem Plain.of_append (plain : Plain c (front ++ back)) : Plain c front := by
  have longer : c :: front <+: c :: (front ++ back) := List.prefix_append (c :: front) back
  exact ⟨fun here => plain.uncommented (here.trans longer),
    fun here => plain.untrimmed (here.trans longer),
    fun here => plain.unclosed (here.trans longer), plain.unquoted⟩

/-- With two characters behind it, a character starts nothing whatever comes then. -/
theorem Plain.append (plain : Plain c front) (long : 2 ≤ front.length) (back : List Char) :
    Plain c (front ++ back) := by
  have decided : ∀ marker : List Char, marker.length ≤ 3 → ¬ marker <+: c :: front →
      ¬ marker <+: c :: (front ++ back) := by
    intro marker short elsewhere here
    have fits : marker.length ≤ (c :: front).length := by
      rw [List.length_cons]
      omega
    exact elsewhere ((isPrefix_append_iff back fits).mp here)
  exact ⟨decided _ (by decide) plain.uncommented, decided _ (by decide) plain.untrimmed,
    decided _ (by decide) plain.unclosed, plain.unquoted⟩

/-- A comment that is written out is found, with whatever stands behind it. -/
theorem comment_written {inner : List Char}
    (closes : breakAt? ['*', '/'] (inner ++ ['*', '/']) = some (inner, ['*', '/']))
    (back : List Char) :
    ['/', '*'] <+: ['/', '*'] ++ inner ++ ['*', '/'] ++ back ∧
      breakAt? ['*', '/'] ((['/', '*'] ++ inner ++ ['*', '/'] ++ back).drop 2) =
        some (inner, ['*', '/'] ++ back) := by
  have parts : ['/', '*'] ++ inner ++ ['*', '/'] ++ back =
      ['/', '*'] ++ (inner ++ ['*', '/'] ++ back) := by
    simp only [List.append_assoc]
  rw [parts]
  exact ⟨List.prefix_append _ _, breakAt?_append closes back⟩

theorem body_of_written_comment {inner : List Char} (opening : Span) (offset : Nat)
    (closes : breakAt? ['*', '/'] (inner ++ ['*', '/']) = some (inner, ['*', '/']))
    (back : List Char) :
    body opening offset (['/', '*'] ++ inner ++ ['*', '/'] ++ back) =
      (body opening (offset + 2 + byteLength inner + 2) back).map fun parts =>
        (parts.1.withComment ⟨offset, offset + 2 + byteLength inner + 2⟩, parts.2) := by
  obtain ⟨commented, ends⟩ := comment_written closes back
  rw [body_of_comment opening offset commented, ends]
  rfl

/-- A body is read up to its closing marker and no further. -/
theorem body_behind (read : body opening offset text = .ok (found, rest)) :
    ∃ piece, text = piece ++ rest ∧ 2 ≤ piece.length ∧
      ∀ other, body opening offset (piece ++ other) = .ok (found, other) := by
  fun_induction body opening offset text generalizing found with
  | case1 => cases read
  | case2 => cases read
  | case3 offset c text commented inner after ends ih =>
      obtain ⟨⟨nested, behind⟩, inside, joined⟩ := exists_of_map_eq_ok read
      cases joined
      obtain ⟨piece, parts, long, others⟩ := ih inside
      refine ⟨['/', '*'] ++ inner ++ ['*', '/'] ++ piece, ?_, ?_, ?_⟩
      · rw [append_of_comment commented ends, parts, List.append_assoc _ piece]
      · rw [List.length_append]
        omega
      · intro other
        rw [List.append_assoc _ piece,
          body_of_written_comment opening offset (breakAt?_alone ends), others]
        rfl
  | case4 offset c text _ trimmed =>
      cases read
      obtain ⟨rest, parts⟩ := trimmed
      rw [← parts]
      exact ⟨_, rfl, by decide, fun other =>
        @body_of_closing opening offset true _ (List.prefix_append _ other)⟩
  | case5 offset c text _ _ closed =>
      cases read
      obtain ⟨rest, parts⟩ := closed
      rw [← parts]
      exact ⟨_, rfl, by decide, fun other =>
        @body_of_closing opening offset false _ (List.prefix_append _ other)⟩
  | case6 => cases read
  | case7 offset c text _ _ _ quoted literal after ends ih =>
      obtain ⟨piece, parts, long, others⟩ := ih read
      refine ⟨c :: literal ++ piece, ?_, ?_, ?_⟩
      · rw [append_of_splitString? ends, parts, List.append_assoc]
        rfl
      · rw [List.length_append]
        omega
      · intro other
        have written := splitString?_append (splitString?_alone ends) (piece ++ other)
        rw [List.append_assoc, List.cons_append, body_of_string opening offset _ quoted, written]
        exact others other
  | case8 offset c text uncommented untrimmed unclosed unquoted ih =>
      obtain ⟨piece, parts, long, others⟩ := ih read
      have plain : Plain c (piece ++ rest) := by
        rw [← parts]
        exact ⟨uncommented, untrimmed, unclosed, unquoted⟩
      refine ⟨c :: piece, by rw [parts]; rfl, Nat.le_add_right_of_le long, ?_⟩
      intro other
      rw [List.cons_append, body_of_plain opening offset (plain.of_append.append long other)]
      exact others other

/-! ### Pieces -/

theorem directiveOpen_isPrefix (trimLeft : Bool) (text : List Char) :
    ['[', '%'] <+: openMarker trimLeft ++ text := by
  cases trimLeft
  · exact List.prefix_append _ _
  · exact List.prefix_append ['[', '%'] ('-' :: text)

/-- A piece of text at an offset and the segment that it makes. -/
inductive Piece (offset : Nat) : List Char → Segment → Prop
  | content {text : List Char} (nonempty : text ≠ [])
      (unmarked : breakAt? ['[', '%'] text = none) (uncommented : ¬ ['/', '*'] <+: text) :
      Piece offset text (.content ⟨offset, offset + byteLength text⟩)
  | comment {inner : List Char}
      (closes : breakAt? ['*', '/'] (inner ++ ['*', '/']) = some (inner, ['*', '/'])) :
      Piece offset (['/', '*'] ++ inner ++ ['*', '/'])
        (.comment ⟨offset, offset + 2 + byteLength inner + 2⟩)
  | directive {text : List Char} {found : Body} (trimLeft : Bool)
      (undashed : trimLeft = false → ¬ ['-'] <+: text)
      (read : body ⟨offset, offset + openWidth trimLeft⟩ (offset + openWidth trimLeft) text =
        .ok (found, [])) :
      Piece offset (openMarker trimLeft ++ text)
        (.directive (found.directive ⟨offset, offset + openWidth trimLeft⟩ trimLeft))

/-- What may stand behind some segments: where they end in literal text, nothing or a directive. -/
def Joins (made : List Segment) (back : List Char) : Prop :=
  ∀ span, made.getLast? = some (.content span) → back = [] ∨ ['[', '%'] <+: back

theorem Joins.of_other (other : ∀ span, first ≠ .content span) (back : List Char) :
    Joins [first] back := by
  intro span last
  exact absurd (Option.some.inj last) (other span)

theorem joins_cons_cons {second : Segment} :
    Joins (first :: second :: made) back ↔ Joins (second :: made) back := by
  rw [Joins, List.getLast?_cons_cons, Joins]

theorem Joins.append (joins : Joins made front) (nonempty : front ≠ []) (back : List Char) :
    Joins made (front ++ back) := by
  intro span last
  rcases joins span last with empty | marked
  · exact absurd empty nonempty
  · exact .inr (marked.trans (List.prefix_append front back))

theorem trimsLeft_openMarker {trimLeft : Bool} (undashed : trimLeft = false → ¬ ['-'] <+: text) :
    trimsLeft (openMarker trimLeft ++ text) = trimLeft := by
  cases trimLeft with
  | true => exact decide_eq_true (List.prefix_append ['[', '%', '-'] text)
  | false =>
      apply decide_eq_false
      intro dashed
      have behind := (List.prefix_append_right_inj ['[', '%']).mp dashed
      exact undashed rfl behind

theorem drop_openMarker (trimLeft : Bool) (text : List Char) :
    (openMarker trimLeft ++ text).drop (openWidth trimLeft) = text := by
  cases trimLeft <;> rfl

theorem not_comment_append (nonempty : front ≠ []) (uncommented : ¬ ['/', '*'] <+: front)
    (ends : back = [] ∨ ['[', '%'] <+: back) : ¬ ['/', '*'] <+: front ++ back := by
  cases front with
  | nil => exact absurd rfl nonempty
  | cons c front =>
      intro here
      obtain ⟨rfl, follows⟩ := pair_isPrefix_cons_iff.mp here
      cases front with
      | cons d front => exact uncommented (pair_isPrefix_cons_iff.mpr ⟨rfl, follows⟩)
      | nil =>
          rcases ends with rfl | ⟨behind, rfl⟩
          · cases follows
          · exact absurd (Option.some.inj follows) (by decide)

theorem segments_of_literal (offset : Nat) (nonempty : text ≠ [])
    (unmarked : breakAt? ['[', '%'] text = none) (uncommented : ¬ ['/', '*'] <+: text) :
    segments offset text = .ok [.content ⟨offset, offset + byteLength text⟩] := by
  have elsewhere := not_prefix_of_breakAt?_eq_none unmarked (List.nil_append text).symm
  rw [segments_of_content offset nonempty elsewhere uncommented, unmarked]

theorem closing_stop_of_body (read : body opening offset text = .ok (found, rest)) :
    found.closing.stop + byteLength rest = offset + byteLength text := by
  obtain ⟨inside, rfl, closing, _⟩ := parts_of_body read
  rw [closing, byteLength_append, byteLength_append]
  dsimp only
  omega

theorem segments_of_openMarker (offset : Nat) {trimLeft : Bool}
    (undashed : trimLeft = false → ¬ ['-'] <+: text) :
    segments offset (openMarker trimLeft ++ text) =
      (body ⟨offset, offset + openWidth trimLeft⟩ (offset + openWidth trimLeft) text).bind
        fun parts => (segments parts.1.closing.stop parts.2).map
          (.directive (parts.1.directive ⟨offset, offset + openWidth trimLeft⟩ trimLeft) :: ·) := by
  rw [segments_of_marked offset (directiveOpen_isPrefix trimLeft text),
    trimsLeft_openMarker undashed, drop_openMarker]

theorem Piece.ne_nil (piece : Piece offset front first) : front ≠ [] := by
  cases piece with
  | content nonempty => exact nonempty
  | comment => simp
  | directive trimLeft => cases trimLeft <;> exact List.cons_ne_nil _ _

theorem Piece.marked {d : Directive} (piece : Piece offset front (.directive d)) :
    ['[', '%'] <+: front := by
  cases piece with
  | directive trimLeft => exact directiveOpen_isPrefix trimLeft _

/-- A piece makes its segment in front of everything that may follow it. -/
theorem Piece.segments_append (piece : Piece offset front first) (joins : Joins [first] back) :
    segments offset (front ++ back) =
      (segments (offset + byteLength front) back).map (first :: ·) := by
  cases piece with
  | content nonempty unmarked uncommented =>
      have ends := joins _ rfl
      have apart := not_comment_append nonempty uncommented ends
      rcases ends with rfl | marked
      · rw [List.append_nil, segments_of_literal offset nonempty unmarked uncommented,
          segments_nil]
        rfl
      · have found := breakAt?_append_of_none (by decide) unmarked marked
        have elsewhere : ¬ ['[', '%'] <+: front ++ back := by
          intro here
          rw [breakAt?_of_marked here] at found
          cases found
          exact nonempty rfl
        have longer := List.append_ne_nil_of_left_ne_nil nonempty back
        rw [segments_of_content offset longer elsewhere apart, found]
  | @comment inner closes =>
      obtain ⟨commented, ends⟩ := comment_written closes back
      rw [segments_of_comment offset commented, ends, byteLength_comment, ← Nat.add_assoc,
        ← Nat.add_assoc]
      rfl
  | @directive text found trimLeft undashed read =>
      obtain ⟨piece, parts, long, others⟩ := body_behind read
      rw [List.append_nil] at parts
      rw [← parts] at long others
      have apart : trimLeft = false → ¬ ['-'] <+: text ++ back := by
        intro plain
        have fits : ['-'].length ≤ text.length := Nat.le_of_succ_le long
        rw [isPrefix_append_iff back fits]
        exact undashed plain
      have stop := closing_stop_of_body read
      rw [byteLength_nil, Nat.add_zero] at stop
      rw [List.append_assoc, segments_of_openMarker offset apart, others back, byteLength_append,
        byteLength_openMarker, ← Nat.add_assoc, ← stop]
      rfl

/-- Behind an opening marker that does not trim, no dash stands. -/
theorem undashed_of_marked (marked : ['[', '%'] <+: text) (plain : trimsLeft text = false) :
    ¬ ['-'] <+: text.drop (openWidth (trimsLeft text)) := by
  rintro ⟨more, behind⟩
  have parts := append_of_openMarker marked
  rw [plain] at parts behind
  rw [← behind] at parts
  have dashed : ['[', '%', '-'] <+: text := by
    rw [parts]
    exact List.prefix_append ['[', '%', '-'] more
  exact of_decide_eq_false plain dashed

/-- A body that is read behind an opening marker makes a piece with it. -/
theorem piece_of_body (marked : ['[', '%'] <+: text)
    (read : body ⟨offset, offset + openWidth (trimsLeft text)⟩
      (offset + openWidth (trimsLeft text)) (text.drop (openWidth (trimsLeft text))) =
        .ok (found, rest)) :
    ∃ front, text = front ++ rest ∧ found.closing.stop = offset + byteLength front ∧
      Piece offset front (.directive (found.directive
        ⟨offset, offset + openWidth (trimsLeft text)⟩ (trimsLeft text))) := by
  have parts := append_of_openMarker marked
  have undashed := undashed_of_marked marked
  generalize trimsLeft text = trimLeft at parts undashed read ⊢
  obtain ⟨piece, inside, _, others⟩ := body_behind read
  have alone := others []
  rw [List.append_nil] at alone
  rw [inside] at parts undashed
  have stop := closing_stop_of_body alone
  rw [byteLength_nil, Nat.add_zero] at stop
  refine ⟨openMarker trimLeft ++ piece, ?_, ?_, .directive trimLeft ?_ alone⟩
  · rw [parts, List.append_assoc]
  · rw [stop, byteLength_append, byteLength_openMarker, Nat.add_assoc]
  · intro plain here
    exact undashed plain (here.trans (List.prefix_append piece rest))

theorem directive_of_segments (marked : ['[', '%'] <+: text)
    (outlined : segments offset text = .ok (first :: later)) :
    ∃ front back, text = front ++ back ∧ Piece offset front first ∧
      (∀ span, first ≠ .content span) ∧
      segments (offset + byteLength front) back = .ok later := by
  rw [segments_of_marked offset marked] at outlined
  cases read : body ⟨offset, offset + openWidth (trimsLeft text)⟩
      (offset + openWidth (trimsLeft text)) (text.drop (openWidth (trimsLeft text))) with
  | error error =>
      rw [read] at outlined
      cases outlined
  | ok outcome =>
      obtain ⟨found, rest⟩ := outcome
      rw [read] at outlined
      obtain ⟨behind, nested, joined⟩ := exists_of_map_eq_ok outlined
      cases joined
      obtain ⟨front, parts, stop, piece⟩ := piece_of_body marked read
      refine ⟨front, rest, parts, piece, ?_, ?_⟩
      · intro span impossible
        cases impossible
      · rw [← stop]
        exact nested

theorem comment_of_segments (commented : ['/', '*'] <+: text)
    (outlined : segments offset text = .ok (first :: later)) :
    ∃ front back, text = front ++ back ∧ Piece offset front first ∧
      (∀ span, first ≠ .content span) ∧
      segments (offset + byteLength front) back = .ok later := by
  rw [segments_of_comment offset commented] at outlined
  cases found : breakAt? ['*', '/'] (text.drop 2) with
  | none =>
      rw [found] at outlined
      cases outlined
  | some parts =>
      obtain ⟨inner, after⟩ := parts
      rw [found] at outlined
      obtain ⟨behind, nested, joined⟩ := exists_of_map_eq_ok outlined
      cases joined
      refine ⟨_, _, append_of_comment commented found, .comment (breakAt?_alone found), ?_, ?_⟩
      · intro span impossible
        cases impossible
      · rw [byteLength_comment, ← Nat.add_assoc, ← Nat.add_assoc]
        exact nested

/-- Text in front of the first directive is a piece, and may stand there. -/
theorem literal_of_break (offset : Nat) (unmarked : ¬ ['[', '%'] <+: text)
    (uncommented : ¬ ['/', '*'] <+: text) (found : breakAt? ['[', '%'] text = some (front, back)) :
    Piece offset front (.content ⟨offset, offset + byteLength front⟩) ∧
      Joins [.content ⟨offset, offset + byteLength front⟩] back := by
  have nonempty := ne_nil_of_breakAt? found unmarked
  obtain ⟨rfl, opens⟩ := append_of_breakAt? found
  have absent : breakAt? ['[', '%'] front = none :=
    breakAt?_eq_none_of_short found (Nat.lt_add_of_pos_right (by decide))
  refine ⟨.content nonempty absent ?_, fun _ _ => .inr opens⟩
  intro here
  exact uncommented (here.trans (List.prefix_append front back))

/-- The first segment of a text is made by a piece at its start. -/
theorem piece_of_segments (outlined : segments offset text = .ok (first :: later)) :
    ∃ front back, text = front ++ back ∧ Piece offset front first ∧ Joins [first] back ∧
      segments (offset + byteLength front) back = .ok later := by
  have nonempty : text ≠ [] := by
    rintro rfl
    rw [segments_nil] at outlined
    cases outlined
  by_cases marked : ['[', '%'] <+: text
  · obtain ⟨front, back, parts, piece, other, nested⟩ := directive_of_segments marked outlined
    exact ⟨front, back, parts, piece, .of_other other back, nested⟩
  by_cases commented : ['/', '*'] <+: text
  · obtain ⟨front, back, parts, piece, other, nested⟩ := comment_of_segments commented outlined
    exact ⟨front, back, parts, piece, .of_other other back, nested⟩
  rw [segments_of_content offset nonempty marked commented] at outlined
  cases found : breakAt? ['[', '%'] text with
  | none =>
      rw [found] at outlined
      cases outlined
      refine ⟨text, [], (List.append_nil text).symm, .content nonempty found commented, ?_, ?_⟩
      · intro span last
        exact .inl rfl
      · exact segments_nil _
  | some parts =>
      obtain ⟨before, after⟩ := parts
      rw [found] at outlined
      obtain ⟨rest, nested, joined⟩ := exists_of_map_eq_ok outlined
      cases joined
      obtain ⟨piece, joins⟩ := literal_of_break offset marked commented found
      exact ⟨before, after, (append_of_breakAt? found).1, piece, joins, nested⟩

/-! ### Rows of pieces -/

/-- A text at an offset, piece by piece, and the segments that the pieces make. -/
inductive Pieces : Nat → List Char → List Segment → Prop
  | nil (offset : Nat) : Pieces offset [] []
  | cons {offset : Nat} {front back : List Char} {first : Segment} {later : List Segment}
      (piece : Piece offset front first) (joins : Joins [first] back)
      (others : Pieces (offset + byteLength front) back later) :
      Pieces offset (front ++ back) (first :: later)

theorem Piece.alone (piece : Piece offset front first) : Pieces offset front [first] := by
  have row := Pieces.cons piece (fun _ _ => .inl rfl) (.nil _)
  rwa [List.append_nil] at row

theorem eq_nil_of_segments (outlined : segments offset text = .ok []) : text = [] := by
  fun_induction segments offset text with
  | case1 offset => rfl
  | case2 => cases outlined
  | case3 =>
      obtain ⟨_, _, impossible⟩ := exists_of_map_eq_ok outlined
      cases impossible
  | case4 => cases outlined
  | case5 =>
      obtain ⟨_, _, impossible⟩ := exists_of_map_eq_ok outlined
      cases impossible
  | case6 => cases outlined
  | case7 =>
      obtain ⟨_, _, impossible⟩ := exists_of_map_eq_ok outlined
      cases impossible

theorem pieces_of_segments (outlined : segments offset text = .ok made) :
    Pieces offset text made := by
  induction made generalizing offset text with
  | nil =>
      obtain rfl := eq_nil_of_segments outlined
      exact .nil offset
  | cons first later ih =>
      obtain ⟨front, back, rfl, piece, joins, nested⟩ := piece_of_segments outlined
      exact .cons piece joins (ih nested)

theorem map_id_of_eq {ε α : Type} {f : α → α} (same : ∀ a, f a = a) (outcome : Except ε α) :
    outcome.map f = outcome := by
  cases outcome with
  | error error => rfl
  | ok a => exact congrArg Except.ok (same a)

namespace Pieces

/-- **Rows of pieces go on.** Behind a row of pieces the text is outlined as if it stood alone. -/
theorem segments_append (pieces : Pieces offset text made) (joins : Joins made back) :
    segments offset (text ++ back) =
      (segments (offset + byteLength text) back).map (made ++ ·) := by
  induction pieces with
  | nil offset => exact (map_id_of_eq List.nil_append _).symm
  | @cons offset front middle first later piece near others ih =>
      have further : Joins later back := by
        cases later with
        | nil =>
            intro span impossible
            cases impossible
        | cons second later => exact joins_cons_cons.mp joins
      have next : Joins [first] (middle ++ back) := by
        intro span last
        cases others with
        | nil => exact joins span last
        | cons second =>
            rcases near span last with empty | marked
            · exact absurd (List.append_eq_nil_iff.mp empty).1 second.ne_nil
            · exact .inr (marked.trans (List.prefix_append _ back))
      rw [List.append_assoc, piece.segments_append next, ih further, map_map, byteLength_append,
        Nat.add_assoc]
      rfl

/-- Where the marker of a directive stands, the first piece is a directive. -/
theorem directive_of_marked (pieces : Pieces offset text (first :: later))
    (marked : ['[', '%'] <+: text) : ∃ d, first = .directive d := by
  cases pieces with
  | @cons _ front back _ _ piece joins others =>
      cases piece with
      | content nonempty unmarked =>
          exfalso
          rcases joins _ rfl with rfl | opens
          · rw [List.append_nil] at marked
            exact not_prefix_of_breakAt?_eq_none unmarked (List.nil_append front).symm marked
          · have found := breakAt?_append_of_none (by decide) unmarked opens
            rw [breakAt?_of_marked marked] at found
            cases found
            exact nonempty rfl
      | comment => exact absurd (List.cons_prefix_cons.mp marked).1 (by decide)
      | directive => exact ⟨_, rfl⟩

/-- A row of pieces can be parted between any two of its segments. -/
theorem split {before : List Segment} (pieces : Pieces offset text (before ++ later)) :
    ∃ front back, text = front ++ back ∧ Pieces offset front before ∧ Joins before back ∧
      Pieces (offset + byteLength front) back later := by
  induction before generalizing offset text with
  | nil =>
      refine ⟨[], text, rfl, .nil offset, ?_, pieces⟩
      intro span impossible
      cases impossible
  | cons first before ih =>
      cases pieces with
      | @cons _ front middle _ _ piece near others =>
          obtain ⟨inner, back, rfl, row, joins, behind⟩ := ih others
          have parted : Joins [first] inner ∧ Joins (first :: before) back := by
            cases row with
            | nil =>
                rw [List.nil_append] at near
                exact ⟨fun _ _ => .inl rfl, near⟩
            | @cons _ front' back' second _ piece' joins' others' =>
                refine ⟨?_, joins_cons_cons.mpr joins⟩
                intro span last
                rcases near span last with empty | marked
                · have nothing := (List.append_eq_nil_iff.mp empty).1
                  exact absurd (List.append_eq_nil_iff.mp nothing).1 piece'.ne_nil
                · obtain ⟨d, rfl⟩ := directive_of_marked others marked
                  exact .inr (piece'.marked.trans (List.prefix_append front' back'))
          refine ⟨front ++ inner, back, ?_, .cons piece parted.1 row, parted.2, ?_⟩
          · rw [List.append_assoc]
          · rw [byteLength_append, ← Nat.add_assoc]
            exact behind

end Pieces

theorem segments_eq_ok_iff : segments offset text = .ok made ↔ Pieces offset text made := by
  constructor
  · exact pieces_of_segments
  · intro pieces
    have whole := pieces.segments_append (fun _ _ => .inl rfl)
    rw [List.append_nil, segments_nil] at whole
    rw [whole]
    exact congrArg Except.ok (List.append_nil made)

end Outline

end TemplateScan
