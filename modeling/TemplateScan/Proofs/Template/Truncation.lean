import TemplateScan.Proofs.Template.OpenBody

/-! # Templates that are cut off

What comes of a template whose source is cut off is told from the segment that the cut goes through
(`Source.segment_cut`). In front of that segment nothing changes; of the segment itself a part is
left, which is literal text or an open comment, string or directive. Only the bracket that is left
of an opening marker is joined to literal text in front of it.
-/

namespace TemplateScan

/-- The quoted strings in the body of a directive of a source. -/
def Directive.strings (d : Directive) (source : Source) : List Span :=
  Outline.strings d.body.start (source.slice d.body).toList

/-- The segments of a template that end at `c` or in front of it. -/
def Template.upTo (template : Template) (c : Nat) : List Segment :=
  template.segments.filter fun segment => segment.span.stop ≤ c

/-- What comes of the source of a template that is cut off at `c`. -/
structure Template.CutAt (template : Template) (source : Source) (c : Nat)
    (outcome : Except TemplateError Template) : Prop where
  /-- A cut is at the start, at the end of a segment, or inside one. -/
  located : c = 0 ∨ ∃ segment ∈ template.segments, segment.span.start < c ∧ c ≤ segment.span.stop
  between : (c = 0 ∨ ∃ segment ∈ template.segments, segment.span.stop = c) →
    outcome = .ok ⟨template.upTo c⟩
  content : ∀ before span after, template.segments = before ++ .content span :: after →
    span.start < c → c < span.stop → outcome = .ok ⟨before ++ [.content ⟨span.start, c⟩]⟩
  slash : ∀ before span after, template.segments = before ++ .comment span :: after →
    c = span.start + 1 → outcome = .ok ⟨before ++ [.content ⟨span.start, c⟩]⟩
  comment : ∀ span, .comment span ∈ template.segments → span.start + 2 ≤ c → c < span.stop →
    outcome = .error (.unterminatedComment ⟨span.start, c⟩)
  bracket_joined : ∀ before span d after,
    template.segments = before ++ .content span :: .directive d :: after →
      c = d.opening.start + 1 → outcome = .ok ⟨before ++ [.content ⟨span.start, c⟩]⟩
  bracket_alone : ∀ before d after, template.segments = before ++ .directive d :: after →
    (∀ span, before.getLast? ≠ some (.content span)) → c = d.opening.start + 1 →
      outcome = .ok ⟨before ++ [.content ⟨d.opening.start, c⟩]⟩
  directive : ∀ d ∈ template.directives, d.opening.start + 2 ≤ c → c < d.closing.stop →
    ∃ error, outcome = .error error ∧
      Outline.CutError ⟨d.opening.start, min d.opening.stop c⟩ d.comments (d.strings source) c error

theorem Span.Tile.located {start stop c : Nat} {spans : List Span} (tile : Tile start stop spans)
    (reached : start ≤ c) (inside : c ≤ stop) :
    c = start ∨ ∃ span ∈ spans, span.start < c ∧ c ≤ span.stop := by
  induction spans generalizing start with
  | nil =>
      have ends : start = stop := tile
      omega
  | cons span spans ih =>
      obtain ⟨starts, _, later⟩ := tile
      by_cases passed : span.stop ≤ c
      · rcases ih later passed with here | ⟨other, member, bounds⟩
        · by_cases empty : c = start
          · exact .inl empty
          · exact .inr ⟨span, List.mem_cons_self, by omega⟩
        · exact .inr ⟨other, List.mem_cons_of_mem span member, bounds⟩
      · by_cases first : c = start
        · exact .inl first
        · exact .inr ⟨span, List.mem_cons_self, by omega⟩

theorem Span.Tile.bounds {start stop : Nat} {spans : List Span} (tile : Tile start stop spans) :
    start ≤ stop ∧ ∀ span ∈ spans, start < span.stop ∧ span.stop ≤ stop := by
  induction spans generalizing start with
  | nil =>
      refine ⟨Nat.le_of_eq tile, ?_⟩
      intro span impossible
      cases impossible
  | cons first spans ih =>
      obtain ⟨starts, filled, later⟩ := tile
      obtain ⟨forward, others⟩ := ih later
      refine ⟨by omega, ?_⟩
      intro span member
      rcases List.mem_cons.mp member with rfl | behind
      · omega
      · have := others span behind
        omega

theorem Span.Tile.stop_eq {start stop : Nat} {spans : List Span} {span : Span}
    (tile : Tile start stop (spans ++ [span])) : span.stop = stop := by
  induction spans generalizing start with
  | nil => exact tile.2.2
  | cons first spans ih => exact ih tile.2.2

namespace Outline

variable {offset c : Nat} {text kept gap dropped front back : List Char}
  {first : Segment} {before after made later : List Segment}

theorem Pieces.tile (pieces : Pieces offset text made) :
    Span.Tile offset (offset + byteLength text) (made.map Segment.span) :=
  (covers_of_segments (segments_eq_ok_iff.mpr pieces)).tile

theorem Piece.span_eq (piece : Piece offset text first) :
    first.span = ⟨offset, offset + byteLength text⟩ := by
  obtain ⟨start, _, stop⟩ := piece.alone.tile
  exact Span.mk.injEq .. ▸ ⟨start, stop⟩

/-! ### What is left of a piece -/

theorem segments_of_cut_content {span : Span} (piece : Piece offset (kept ++ gap) (.content span))
    (nonempty : kept ≠ []) :
    segments offset kept = .ok [.content ⟨offset, offset + byteLength kept⟩] := by
  generalize whole : kept ++ gap = text at piece
  cases piece with
  | content _ unmarked uncommented =>
      subst whole
      apply segments_of_literal offset nonempty (breakAt?_eq_none_of_append unmarked)
      intro here
      exact uncommented (here.trans (List.prefix_append kept gap))

theorem segments_of_bracket (offset : Nat) :
    segments offset ['['] = .ok [.content ⟨offset, offset + 1⟩] :=
  segments_of_literal offset (List.cons_ne_nil _ _) rfl (by decide)

theorem segments_of_cut_comment {span : Span} (piece : Piece offset (kept ++ gap) (.comment span))
    (unfinished : gap ≠ []) :
    kept = [] ∨ kept = ['/'] ∧ segments offset kept = .ok [.content ⟨offset, offset + 1⟩] ∨
      2 ≤ byteLength kept ∧ segments offset kept =
        .error (.unterminatedComment ⟨offset, offset + byteLength kept⟩) := by
  generalize whole : kept ++ gap = text at piece
  cases piece with
  | comment closes =>
      rcases comment_cut closes whole.symm unfinished with rfl | rfl | ⟨commented, absent⟩
      · exact .inl rfl
      · refine .inr (.inl ⟨rfl, ?_⟩)
        exact segments_of_literal offset (List.cons_ne_nil _ _) rfl (by decide)
      · refine .inr (.inr ⟨?_, ?_⟩)
        · obtain ⟨more, rfl⟩ := commented
          rw [byteLength_append]
          exact Nat.le_add_right _ _
        · rw [segments_of_comment offset commented, absent]

/-- Literal text in front of a directive goes on over the bracket that opens it. -/
theorem segments_of_content_bracket {span : Span} (piece : Piece offset text (.content span)) :
    segments offset (text ++ ['[']) = .ok [.content ⟨offset, offset + byteLength text + 1⟩] := by
  cases piece with
  | content nonempty unmarked uncommented =>
      have parts : text ++ ['[', '%'] = text ++ ['['] ++ ['%'] := by
        rw [List.append_assoc]
        rfl
      have marked := breakAt?_append_of_none (by decide) unmarked (@List.prefix_rfl _ ['[', '%'])
      have apart := not_comment_append nonempty uncommented (.inr (@List.prefix_rfl _ ['[', '%']))
      rw [parts] at marked apart
      have unmarked : breakAt? ['[', '%'] (text ++ ['[']) = none := by
        apply breakAt?_eq_none_of_short marked
        rw [List.length_append]
        exact Nat.lt_succ_self _
      have longer : text ++ ['['] ≠ [] := List.append_ne_nil_of_left_ne_nil nonempty _
      have uncommented : ¬ ['/', '*'] <+: text ++ ['['] := by
        intro here
        exact apart (here.trans (List.prefix_append _ ['%']))
      rw [segments_of_literal offset longer unmarked uncommented, byteLength_append, Nat.add_assoc]
      rfl

/-- An opening marker that is cut off behind two characters still opens a directive. -/
theorem segments_of_cut_opening {trimLeft : Bool} (offset : Nat)
    (parts : openMarker trimLeft = kept ++ gap) (unfinished : gap ≠ [])
    (opened : 2 ≤ byteLength kept) :
    byteLength kept ≤ openWidth trimLeft ∧
      segments offset kept =
        .error (.unterminatedDirective ⟨offset, offset + byteLength kept⟩) := by
  have total := congrArg byteLength parts
  have missing := byteLength_pos unfinished
  rw [byteLength_openMarker, byteLength_append] at total
  refine ⟨by omega, ?_⟩
  cases trimLeft with
  | false =>
      have : openWidth false = 2 := rfl
      omega
  | true =>
      match kept, parts with
      | [], _ => exact absurd opened (by decide)
      | [_], rfl => exact absurd opened (by decide)
      | [_, _], rfl =>
          have opens := @segments_of_openMarker [] offset false (by simp)
          rw [body_nil] at opens
          exact opens
      | [_, _, _], rfl => exact absurd rfl unfinished

/-- What is left of a directive behind its two first characters is an open directive. -/
theorem segments_of_cut_directive {d : Directive}
    (piece : Piece offset (kept ++ gap) (.directive d)) (unfinished : gap ≠ [])
    (opened : 2 ≤ byteLength kept) :
    ∃ opening inside closing error, kept ++ gap = opening ++ inside ++ closing ∧
      d.body = ⟨offset + byteLength opening, offset + byteLength opening + byteLength inside⟩ ∧
      segments offset kept = .error error ∧
      CutError ⟨offset, min d.opening.stop (offset + byteLength kept)⟩ d.comments
        (strings d.body.start inside) (offset + byteLength kept) error := by
  generalize whole : kept ++ gap = text at piece
  cases piece with
  | @directive text found trimLeft undashed read =>
      obtain ⟨inside, parts, fails⟩ := body_cut read
      obtain ⟨again, alike, closing, _⟩ := parts_of_body read
      rw [parts] at alike
      obtain rfl : inside = again := List.append_cancel_right (List.append_cancel_right alike)
      rw [List.append_nil] at parts
      subst parts
      have commentsAhead := le_start_of_comments read
      have stringsAhead := le_start_of_strings (offset + openWidth trimLeft) inside
      refine ⟨openMarker trimLeft, inside, closeMarker found.trimRight, ?_⟩
      rw [byteLength_openMarker, Body.directive, closing]
      dsimp only
      rcases kept_or_cut whole.symm with ⟨more, rfl, behind⟩ | ⟨missing, shortened, early⟩
      · obtain ⟨error, failed, cut⟩ := fails more gap behind unfinished
        rw [behind] at undashed
        have apart : trimLeft = false → ¬ ['-'] <+: more := by
          intro plain here
          exact undashed plain (here.trans (List.prefix_append more gap))
        refine ⟨error, (List.append_assoc _ _ _).symm, rfl, ?_, ?_⟩
        · rw [segments_of_openMarker offset apart, failed]
          rfl
        · rw [byteLength_append, byteLength_openMarker, ← Nat.add_assoc,
            Nat.min_eq_left (Nat.le_add_right _ _)]
          exact cut
      · obtain ⟨short, failed⟩ := segments_of_cut_opening offset early shortened opened
        refine ⟨_, (List.append_assoc _ _ _).symm, rfl, failed, ?_⟩
        rw [Nat.min_eq_right (Nat.add_le_add_left short offset)]
        refine .of_ahead _ ?_ ?_
        · intro span member
          have := commentsAhead span member
          omega
        · intro span member
          have := stringsAhead span member
          omega

/-! ### What is left of a row of pieces -/

/-- Of a text that may stand behind some segments, a part may stand there too, unless it is the
bracket of an opening marker. -/
theorem Joins.of_append (joins : Joins made (front ++ back)) (other : front ≠ ['[']) :
    Joins made front := by
  intro span last
  rcases joins span last with empty | marked
  · exact .inl (List.append_eq_nil_iff.mp empty).1
  · match front with
    | [] => exact .inl rfl
    | [char] =>
        obtain rfl := (List.cons_prefix_cons.mp marked).1
        exact absurd rfl other
    | char :: second :: more =>
        have fits : ['[', '%'].length ≤ (char :: second :: more).length := Nat.le_add_left 2 _
        exact .inr ((isPrefix_append_iff back fits).mp marked)

theorem eq_bracket (marked : ['[', '%'] <+: kept ++ gap) (short : byteLength kept < 2)
    (nonempty : kept ≠ []) : kept = ['['] := by
  cases kept with
  | nil => exact absurd rfl nonempty
  | cons char more =>
      obtain rfl := (List.cons_prefix_cons.mp marked).1
      cases more with
      | nil => rfl
      | cons second more =>
          have := second.utf8Size_pos
          have wide : byteLength ('[' :: second :: more) =
              1 + (second.utf8Size + byteLength more) := rfl
          omega

/-- Text that is cut off inside the piece of a segment: the pieces in front are left, and `more` of
the piece itself. -/
structure CutInside (offset : Nat) (kept dropped : List Char) (before : List Segment)
    (first : Segment) (front more gap : List Char) : Prop where
  kept_eq : kept = front ++ more
  unfinished : gap ≠ []
  row : Pieces offset front before
  start : first.span.start = offset + byteLength front
  piece : Piece (offset + byteLength front) (more ++ gap) first
  joins : Joins before more ∨ ∃ d, first = .directive d ∧ more = ['[']
  dropped_eq : ∃ behind, dropped = gap ++ behind

theorem Pieces.cut (pieces : Pieces offset (kept ++ dropped) (before ++ first :: after))
    (reached : first.span.start ≤ offset + byteLength kept)
    (inside : offset + byteLength kept < first.span.stop) :
    ∃ front more gap, CutInside offset kept dropped before first front more gap := by
  obtain ⟨front, back, parts, row, joins, rest⟩ := pieces.split
  cases others : rest with
  | @cons _ text behind _ _ piece near later =>
      have spans := piece.span_eq
      rw [spans] at reached inside
      dsimp only at reached inside
      obtain ⟨more, rfl, left⟩ := append_of_byteLength_le parts.symm (by omega)
      rcases kept_or_cut left with ⟨further, rfl, _⟩ | ⟨gap, unfinished, rfl⟩
      · rw [byteLength_append, byteLength_append] at inside
        omega
      · have dropped_eq : dropped = gap ++ behind := by
          rw [List.append_assoc] at left
          exact (List.append_cancel_left left).symm
        refine ⟨front, more, gap, rfl, unfinished, row, by rw [spans], piece, ?_,
          ⟨behind, dropped_eq⟩⟩
        by_cases bracket : more = ['[']
        · by_cases literal : ∃ span, before.getLast? = some (.content span)
          · obtain ⟨span, last⟩ := literal
            rcases joins span last with impossible | marked
            · rw [bracket] at impossible
              cases impossible
            · obtain ⟨d, rfl⟩ := rest.directive_of_marked marked
              exact .inr ⟨d, rfl, bracket⟩
          · exact .inl fun span last => absurd ⟨span, last⟩ literal
        · rw [List.append_assoc] at joins
          exact .inl (joins.of_append bracket)

/-- A row of pieces is made of the segments that end in front of its end, whatever the pieces
behind it are. -/
theorem Pieces.segments_between (row : Pieces offset front before)
    (rest : Pieces (offset + byteLength front) back later) :
    segments offset front = .ok ((before ++ later).filter fun segment =>
      segment.span.stop ≤ offset + byteLength front) := by
  have passed : ∀ segment ∈ before,
      decide (segment.span.stop ≤ offset + byteLength front) = true := by
    intro segment member
    exact decide_eq_true (row.tile.bounds.2 _ (List.mem_map_of_mem member)).2
  have ahead : ∀ segment ∈ later,
      ¬ decide (segment.span.stop ≤ offset + byteLength front) = true := by
    intro segment member reached
    have bounds := rest.tile.bounds.2 _ (List.mem_map_of_mem member)
    have := of_decide_eq_true reached
    omega
  rw [List.filter_append, List.filter_eq_self.mpr passed, List.filter_eq_nil_iff.mpr ahead,
    List.append_nil]
  exact segments_eq_ok_iff.mpr row

theorem Pieces.segments_between_of_stop
    (pieces : Pieces offset (kept ++ dropped) (before ++ first :: after))
    (stop : first.span.stop = offset + byteLength kept) :
    segments offset kept = .ok ((before ++ first :: after).filter fun segment =>
      segment.span.stop ≤ offset + byteLength kept) := by
  rw [List.append_cons] at pieces ⊢
  obtain ⟨front, back, parts, row, _, rest⟩ := pieces.split
  have ends : first.span.stop = offset + byteLength front := by
    have tile := row.tile
    rw [List.map_append] at tile
    exact tile.stop_eq
  obtain ⟨more, rfl, _⟩ := append_of_byteLength_le parts.symm (by omega)
  have nothing : more = [] := by
    by_cases empty : more = []
    · exact empty
    · have := byteLength_pos empty
      rw [byteLength_append] at stop
      omega
  subst nothing
  rw [List.append_nil]
  exact row.segments_between rest

theorem Piece.opening_start {d : Directive} (piece : Piece offset text (.directive d)) :
    d.opening.start = offset := by
  cases piece with
  | directive => rfl

/-- Comments and directives open with two characters. -/
theorem Piece.two_le (piece : Piece offset text first) (other : ∀ span, first ≠ .content span) :
    first.span.start + 1 < first.span.stop := by
  rw [piece.span_eq]
  dsimp only
  cases piece with
  | content => exact absurd rfl (other _)
  | comment =>
      rw [byteLength_comment]
      omega
  | @directive text _ trimLeft =>
      rw [byteLength_append, byteLength_openMarker]
      have : 2 ≤ openWidth trimLeft := by cases trimLeft <;> decide
      omega

namespace Pieces

theorem two_le (pieces : Pieces offset text (before ++ first :: after))
    (other : ∀ span, first ≠ .content span) : first.span.start + 1 < first.span.stop := by
  obtain ⟨_, _, _, _, _, rest⟩ := pieces.split
  cases rest with
  | cons piece => exact piece.two_le other

theorem span_start {d : Directive} (pieces : Pieces offset text (before ++ .directive d :: after)) :
    d.span.start = d.opening.start := by
  obtain ⟨_, _, _, _, _, rest⟩ := pieces.split
  cases rest with
  | cons piece =>
      rw [piece.opening_start]
      exact congrArg Span.start piece.span_eq

theorem segments_of_cut_content {span : Span}
    (pieces : Pieces offset (kept ++ dropped) (before ++ .content span :: after))
    (reached : span.start < offset + byteLength kept)
    (inside : offset + byteLength kept < span.stop) :
    segments offset kept =
      .ok (before ++ [.content ⟨span.start, offset + byteLength kept⟩]) := by
  obtain ⟨front, more, gap, rfl, _, row, start, piece, joins, _⟩ :=
    pieces.cut (Nat.le_of_lt reached) inside
  have start : span.start = offset + byteLength front := start
  rw [byteLength_append] at reached
  have nonempty : more ≠ [] := by
    rintro rfl
    rw [byteLength_nil] at reached
    omega
  rcases joins with joins | ⟨d, impossible, _⟩
  · rw [row.segments_append joins, Outline.segments_of_cut_content piece nonempty, start,
      byteLength_append, Nat.add_assoc]
    rfl
  · cases impossible

theorem segments_of_cut_slash {span : Span}
    (pieces : Pieces offset (kept ++ dropped) (before ++ .comment span :: after))
    (reached : offset + byteLength kept = span.start + 1) :
    segments offset kept =
      .ok (before ++ [.content ⟨span.start, offset + byteLength kept⟩]) := by
  have wide : span.start + 1 < span.stop := pieces.two_le (by simp)
  have begun : span.start ≤ offset + byteLength kept := by omega
  have inside : offset + byteLength kept < span.stop := by omega
  obtain ⟨front, more, gap, rfl, unfinished, row, start, piece, joins, _⟩ := pieces.cut begun inside
  have start : span.start = offset + byteLength front := start
  rw [byteLength_append] at reached
  rcases joins with joins | ⟨d, impossible, _⟩
  · rcases Outline.segments_of_cut_comment piece unfinished with rfl | ⟨rfl, left⟩ | ⟨long, _⟩
    · rw [byteLength_nil] at reached
      omega
    · rw [row.segments_append joins, left, start, byteLength_append, ← Nat.add_assoc]
      rfl
    · omega
  · cases impossible

theorem segments_of_cut_comment {span : Span}
    (pieces : Pieces offset (kept ++ dropped) (before ++ .comment span :: after))
    (reached : span.start + 2 ≤ offset + byteLength kept)
    (inside : offset + byteLength kept < span.stop) :
    segments offset kept =
      .error (.unterminatedComment ⟨span.start, offset + byteLength kept⟩) := by
  have begun : span.start ≤ offset + byteLength kept := by omega
  obtain ⟨front, more, gap, rfl, unfinished, row, start, piece, joins, _⟩ := pieces.cut begun inside
  have start : span.start = offset + byteLength front := start
  rw [byteLength_append] at reached
  rcases joins with joins | ⟨d, impossible, _⟩
  · rcases Outline.segments_of_cut_comment piece unfinished with rfl | ⟨rfl, _⟩ | ⟨_, failed⟩
    · rw [byteLength_nil] at reached
      omega
    · have : byteLength ['/'] = 1 := rfl
      omega
    · rw [row.segments_append joins, failed, start, byteLength_append, Nat.add_assoc]
      rfl
  · cases impossible

theorem segments_of_cut_directive {d : Directive}
    (pieces : Pieces offset (kept ++ dropped) (before ++ .directive d :: after))
    (reached : d.opening.start + 2 ≤ offset + byteLength kept)
    (inside : offset + byteLength kept < d.closing.stop) :
    ∃ front inner back error, kept ++ dropped = front ++ inner ++ back ∧
      d.body = ⟨offset + byteLength front, offset + byteLength front + byteLength inner⟩ ∧
      segments offset kept = .error error ∧
      CutError ⟨d.opening.start, min d.opening.stop (offset + byteLength kept)⟩ d.comments
        (strings d.body.start inner) (offset + byteLength kept) error := by
  have begun : d.span.start ≤ offset + byteLength kept :=
    Nat.le_trans (Nat.min_le_left _ _) (by omega)
  have open_ : offset + byteLength kept < d.span.stop :=
    Nat.lt_of_lt_of_le inside (Nat.le_max_right _ _)
  obtain ⟨front, more, gap, rfl, unfinished, row, _, piece, joins, behind, rfl⟩ :=
    pieces.cut begun open_
  have start := piece.opening_start
  rw [byteLength_append] at reached
  have opened : 2 ≤ byteLength more := by omega
  obtain ⟨marker, inner, closing, error, parts, body_eq, failed, cut⟩ :=
    Outline.segments_of_cut_directive piece unfinished opened
  rcases joins with joins | ⟨_, _, rfl⟩
  · refine ⟨front ++ marker, inner, closing ++ behind, error, ?_, ?_, ?_, ?_⟩
    · rw [List.append_assoc front, ← List.append_assoc more, parts]
      simp only [List.append_assoc]
    · rw [byteLength_append, ← Nat.add_assoc]
      exact body_eq
    · rw [row.segments_append joins, failed]
      rfl
    · rw [start, byteLength_append, ← Nat.add_assoc]
      exact cut
  · exact absurd opened (by decide)

/-- What is left of an opening marker that is cut off behind its bracket. -/
theorem cut_bracket {d : Directive}
    (pieces : Pieces offset (kept ++ dropped) (before ++ .directive d :: after))
    (reached : offset + byteLength kept = d.opening.start + 1) :
    ∃ front, kept = front ++ ['['] ∧ Pieces offset front before ∧
      d.opening.start = offset + byteLength front := by
  have wide : d.span.start + 1 < d.span.stop := pieces.two_le (by simp)
  have begun : d.span.start ≤ offset + byteLength kept :=
    Nat.le_trans (Nat.min_le_left _ _) (by omega)
  have inside : offset + byteLength kept < d.span.stop := by
    rw [reached, ← pieces.span_start]
    exact wide
  obtain ⟨front, more, gap, rfl, _, row, _, piece, _⟩ := pieces.cut begun inside
  have start := piece.opening_start
  rw [byteLength_append] at reached
  have nonempty : more ≠ [] := by
    rintro rfl
    rw [byteLength_nil] at reached
    omega
  obtain rfl := eq_bracket piece.marked (by omega) nonempty
  exact ⟨front, rfl, row, start⟩

theorem segments_of_bracket_alone {d : Directive}
    (pieces : Pieces offset (kept ++ dropped) (before ++ .directive d :: after))
    (other : ∀ span, before.getLast? ≠ some (.content span))
    (reached : offset + byteLength kept = d.opening.start + 1) :
    segments offset kept =
      .ok (before ++ [.content ⟨d.opening.start, offset + byteLength kept⟩]) := by
  obtain ⟨front, rfl, row, start⟩ := pieces.cut_bracket reached
  have joins : Joins before ['['] := fun span last => absurd last (other span)
  rw [row.segments_append joins, segments_of_bracket, reached, start]
  rfl

theorem segments_of_bracket_joined {span : Span} {d : Directive}
    (pieces : Pieces offset (kept ++ dropped) (before ++ .content span :: .directive d :: after))
    (reached : offset + byteLength kept = d.opening.start + 1) :
    segments offset kept =
      .ok (before ++ [.content ⟨span.start, offset + byteLength kept⟩]) := by
  rw [List.append_cons] at pieces
  obtain ⟨front, rfl, row, start⟩ := pieces.cut_bracket reached
  obtain ⟨front, back, rfl, earlier, joins, last⟩ := row.split
  cases last with
  | @cons _ text behind _ _ piece _ none =>
      cases none
      have spans : span = ⟨_, _⟩ := piece.span_eq
      have joins := joins.append (List.append_ne_nil_of_left_ne_nil piece.ne_nil []) ['[']
      rw [List.append_nil] at joins ⊢
      rw [List.append_assoc, earlier.segments_append joins, segments_of_content_bracket piece,
        spans, byteLength_append, byteLength_append, ← Nat.add_assoc, ← Nat.add_assoc]
      rfl

end Pieces

end Outline

namespace Source

variable {source : Source} {template : Template} {c : Nat}

theorem cut_pieces (segmented : source.segment = .ok (.ok template))
    (boundary : source.isBoundary c = true) :
    ∃ kept dropped, source.chars = kept ++ dropped ∧ c = 0 + byteLength kept ∧
      source.slice ⟨0, c⟩ = String.ofList kept ∧
      Outline.Pieces 0 (kept ++ dropped) template.segments := by
  obtain ⟨dropped, kept, parts, rfl⟩ := isBoundary_iff.mp boundary
  obtain ⟨made, outlined, rfl⟩ := exists_of_map_eq_ok (source.segment_eq_ok_iff.mp segmented)
  have whole := source.leavesAt_zero
  rw [parts] at whole outlined
  have front := whole.slice_eq
  rw [Nat.zero_add] at front
  exact ⟨kept, dropped, parts, (Nat.zero_add _).symm, front, Outline.pieces_of_segments outlined⟩

end Source

end TemplateScan
