import TemplateScan.Proofs.Template.Walk

/-! # Segmenting a source reads its outline

A walk takes its tokens by attempts that may be refused and made again, and passes over blanks in
two places. What it comes to is the outline of the text (`Source.segment_eq_outline`): each turn
leaves the outline of the whole as it was (`Outline.move_inStep`), and so does a run.
-/

namespace TemplateScan

namespace Outline

/-- The directive that an open one becomes with the rest of its body. -/
def filled (d : OpenDirective) (body : Body) : Directive :=
  { body with comments := d.comments.toList ++ body.comments }.directive d.opening d.trimLeft

theorem filled_withComment (d : OpenDirective) (comment : Span) (body : Body) :
    filled d (body.withComment comment) =
      filled { d with comments := d.comments.push comment } body := by
  simp only [filled, Body.withComment, Array.toList_push, List.append_assoc, List.cons_append,
    List.nil_append]

theorem filled_closing (d : OpenDirective) (closing : Span) (trimRight : Bool) :
    filled d ⟨[], closing, trimRight⟩ = d.close closing trimRight := by
  rw [filled, List.append_nil]
  rfl

/-- The segments of a source of which some are made, a directive may be open, and `text` is left. -/
def rest (pending : Option OpenDirective) (made : List Segment) (offset : Nat)
    (text : List Char) : Except TemplateError (List Segment) :=
  match pending with
  | none => (segments offset text).map (made ++ ·)
  | some d =>
      (body d.opening offset text).bind fun parts =>
        (segments parts.1.closing.stop parts.2).map
          (made ++ .directive (filled d parts.1) :: ·)

theorem rest_some (d : OpenDirective) (made : List Segment) (offset : Nat) (text : List Char) :
    rest (some d) made offset text = (body d.opening offset text).bind fun parts =>
      (segments parts.1.closing.stop parts.2).map (made ++ .directive (filled d parts.1) :: ·) :=
  rfl

/-- A move is in step with the outline: it ends or fails as the outline does, or the outline of what
it leaves is the one of the whole. -/
def InStep (pending : Option OpenDirective) (made : List Segment) (offset : Nat)
    (text : List Char) : Move → Prop
  | .finish => rest pending made offset text = .ok made
  | .fail error _ => rest pending made offset text = .error error
  | .go next pending' added _ =>
      ∃ front back, text = front ++ back ∧ front ≠ [] ∧ next = offset + byteLength front ∧
        rest pending made offset text = rest pending' (made ++ added) next back

variable {made : List Segment} {offset : Nat} {text : List Char} {events : List Event}
  {d : OpenDirective}

theorem add_byteLength_comment {inner : List Char} :
    offset + byteLength (['/', '*'] ++ inner ++ ['*', '/']) =
      offset + 2 + byteLength inner + 2 := by
  rw [byteLength_comment]
  omega

theorem segments_map_append (segment : Segment) (next : Nat) (back : List Char) :
    ((segments next back).map (segment :: ·)).map (made ++ ·) =
      rest none (made ++ [segment]) next back := by
  rw [rest, map_map]
  congr 1
  funext later
  exact (List.append_assoc made [segment] later).symm

theorem rest_nil : rest none made offset [] = .ok made := by
  rw [rest, segments, if_pos rfl]
  exact congrArg Except.ok (List.append_nil made)

theorem rest_of_marked (marked : ['[', '%'] <+: text) :
    rest none made offset text =
      rest (some ⟨⟨offset, offset + openWidth (trimsLeft text)⟩, trimsLeft text, #[]⟩) made
        (offset + openWidth (trimsLeft text)) (text.drop (openWidth (trimsLeft text))) := by
  rw [rest, segments_of_marked offset marked, rest]
  cases body _ _ (text.drop (openWidth (trimsLeft text))) with
  | error error => rfl
  | ok parts => exact map_map _ _ _

theorem content_inStep (nonempty : text ≠ []) (unmarked : ¬ ['[', '%'] <+: text)
    (uncommented : ¬ ['/', '*'] <+: text) :
    InStep none made offset text
      (.go (Move.contentSpan offset text).stop none [.content (Move.contentSpan offset text)]
        events) := by
  have outline := segments_of_content offset nonempty unmarked uncommented
  rw [Move.contentSpan, firstAt?]
  cases found : breakAt? ['[', '%'] text with
  | none =>
      rw [found] at outline
      refine ⟨text, [], (List.append_nil _).symm, nonempty, rfl, ?_⟩
      rw [rest_nil, rest, outline]
      rfl
  | some parts =>
      obtain ⟨before, after⟩ := parts
      rw [found] at outline
      have parts := (append_of_breakAt? found).1
      refine ⟨before, after, parts, ne_nil_of_breakAt? found unmarked, rfl, ?_⟩
      rw [rest, outline, segments_map_append]
      rfl

theorem outside_inStep : InStep none made offset text (.outside offset text) := by
  rw [Move.outside]
  by_cases empty : text = []
  · subst empty
    rw [if_pos rfl]
    exact rest_nil
  rw [if_neg empty]
  by_cases marked : ['[', '%'] <+: text
  · obtain ⟨marker, parts, width⟩ := append_of_opening marked
    rw [if_pos marked]
    refine ⟨marker, _, parts, ?_, by rw [width], ?_⟩
    · rintro rfl
      cases trims : trimsLeft text <;> rw [trims] at width <;> cases width
    · rw [List.append_nil]
      exact rest_of_marked marked
  rw [if_neg marked]
  by_cases opening : ['/', '*'] <+: text
  · have outline := segments_of_comment offset opening
    rw [if_pos opening]
    cases found : breakAt? ['*', '/'] (text.drop 2) with
    | none =>
        rw [found] at outline
        rw [InStep, rest, outline]
        rfl
    | some parts =>
        obtain ⟨inner, after⟩ := parts
        rw [found] at outline
        refine ⟨_, _, append_of_comment opening found, by simp, add_byteLength_comment.symm, ?_⟩
        rw [rest, outline, segments_map_append]
  rw [if_neg opening]
  exact content_inStep empty marked opening

theorem comment_inStep {token : Token} (accepted : commentAt? offset text = some token) :
    InStep (some d) made offset text
      (.go token.span.stop (some { d with comments := d.comments.push token.span }) [] events) := by
  have opening : ['/', '*'] <+: text := by
    apply Classical.byContradiction
    intro other
    rw [commentAt?_of_no_opening other] at accepted
    cases accepted
  rw [commentAt?_of_opening opening] at accepted
  obtain ⟨⟨inner, after⟩, found, rfl⟩ := Option.map_eq_some_iff.mp accepted
  refine ⟨_, _, append_of_comment opening found, by simp, add_byteLength_comment.symm, ?_⟩
  rw [List.append_nil, rest, body_of_comment _ _ opening, found, rest]
  dsimp only
  cases body d.opening (offset + 2 + byteLength inner + 2) (after.drop 2) with
  | error error => rfl
  | ok parts =>
      have joined := filled_withComment d ⟨offset, offset + 2 + byteLength inner + 2⟩ parts.1
      simp only [Except.map, Except.bind, joined]
      rfl

theorem closing_inStep (trimRight : Bool) (closed : closeMarker trimRight <+: text) :
    InStep (some d) made offset text
      (.go (offset + byteLength (closeMarker trimRight)) none
        [.directive (d.close ⟨offset, offset + byteLength (closeMarker trimRight)⟩ trimRight)]
        events) := by
  refine ⟨_, _, (List.prefix_iff_eq_append.mp closed).symm, closeMarker_ne_nil _, rfl, ?_⟩
  rw [rest_some, body_of_closing _ _ closed, ← segments_map_append, map_map]
  simp only [Except.bind, filled_closing]
  rfl

/-- A place in a directive where no blank stands and no comment can be taken. -/
theorem code_inStep (refused : commentAt? offset text = none) :
    InStep (some d) made offset text (.code d offset text events) := by
  cases text with
  | nil =>
      rw [Move.code, InStep, rest, body]
      rfl
  | cons c text =>
      rw [Move.code]
      by_cases trimmed : ['-', '%', ']'] <+: c :: text
      · rw [if_pos trimmed]
        exact closing_inStep true trimmed
      rw [if_neg trimmed]
      by_cases closed : ['%', ']'] <+: c :: text
      · rw [if_pos closed]
        exact closing_inStep false closed
      rw [if_neg closed]
      by_cases opening : ['/', '*'] <+: c :: text
      · rw [commentAt?_of_opening opening, Option.map_eq_none_iff] at refused
        rw [if_pos opening, InStep, rest, body_of_comment _ _ opening, refused]
        rfl
      rw [if_neg opening]
      by_cases quoted : c = '\x22' ∨ c = '\x27'
      · have read := body_of_string d.opening offset text quoted
        rw [if_pos quoted]
        cases found : splitString? c text with
        | none =>
            rw [found] at read
            rw [InStep, rest, read]
            rfl
        | some parts =>
            obtain ⟨literal, after⟩ := parts
            rw [found] at read
            refine ⟨c :: literal, after, by rw [append_of_splitString? found]; rfl,
              List.cons_ne_nil _ _, ?_, by rw [List.append_nil, rest, read]; rfl⟩
            rw [byteLength_cons, utf8Size_of_quote quoted, Nat.add_assoc]
      · rw [if_neg quoted]
        refine ⟨[c], text, rfl, List.cons_ne_nil _ _, by simp, ?_⟩
        rw [List.append_nil, rest, body, if_neg opening, if_neg trimmed, if_neg closed,
          if_neg quoted]
        rfl

theorem InStep.of_blanks {move : Move}
    (inStep : InStep (some d) made (offset + byteLength (text.takeWhile isBlank))
      (text.dropWhile isBlank) move) : InStep (some d) made offset text move := by
  have skipped : rest (some d) made offset text = rest (some d) made
      (offset + byteLength (text.takeWhile isBlank)) (text.dropWhile isBlank) := by
    rw [rest, body_dropBlanks, rest]
  cases move with
  | finish => exact skipped.trans inStep
  | fail error events => exact skipped.trans inStep
  | go next pending added events =>
      obtain ⟨front, back, parts, nonempty, width, outline⟩ := inStep
      refine ⟨text.takeWhile isBlank ++ front, back, ?_, ?_, ?_, skipped.trans outline⟩
      · rw [List.append_assoc, ← parts, List.takeWhile_append_dropWhile]
      · exact List.append_ne_nil_of_right_ne_nil _ nonempty
      · rw [width, byteLength_append, Nat.add_assoc]

theorem inside_inStep : InStep (some d) made offset text (.inside d offset text) := by
  rw [Move.inside]
  cases attempt : tokenAt? (.only .comment) offset text with
  | some token => exact .of_blanks (comment_inStep attempt)
  | none => exact .of_blanks (code_inStep attempt)

theorem move_inStep (made : List Segment) (offset : Nat) (text : List Char)
    (pending : Option OpenDirective) :
    InStep pending made offset text (.of pending offset text) := by
  cases pending with
  | none => exact outside_inStep
  | some d => exact inside_inStep

end Outline

namespace Walk

variable {source : Source} {w after : Walk source} {text : List Char}

theorem run_of_turn {turn : Turn source} (taken : w.step = .ok turn) :
    w.run = match turn with
      | .next after => after.run
      | .finished last => .ok (.ok (), last)
      | .failed error last => .ok (.error error, last) := by
  rw [run]
  split
  · next fault met => rw [taken] at met; cases met
  · next after met => rw [taken] at met; cases met; rfl
  · next last met => rw [taken] at met; cases met; rfl
  · next error last met => rw [taken] at met; cases met; rfl

/-- A run from a character boundary comes to an end without a fault, and what it has made then is
the outline of the whole. -/
theorem run_eq_rest (left : source.LeavesAt w.lexer.offset text) :
    ∃ outcome last, w.run = .ok (outcome, last) ∧
      outcome.map (fun _ => last.segments.toList) =
        Outline.rest w.pending w.segments.toList w.lexer.offset text := by
  -- every move but the last leaves less text
  induction length : text.length using Nat.strongRecOn generalizing w text with
  | _ bound ih =>
      have taken := step_takes left
      have inStep := Outline.move_inStep w.segments.toList w.lexer.offset text w.pending
      cases move : Move.of w.pending w.lexer.offset text with
      | finish =>
          rw [move] at taken inStep
          exact ⟨_, _, run_of_turn taken, inStep.symm⟩
      | fail error events =>
          rw [move] at taken inStep
          obtain ⟨last, turn, _⟩ := taken
          exact ⟨_, _, run_of_turn turn, inStep.symm⟩
      | go offset pending added events =>
          rw [move] at taken inStep
          obtain ⟨after, turn, rfl, rfl, segments, _⟩ := taken
          obtain ⟨front, back, rfl, nonempty, width, outline⟩ := inStep
          have shorter : back.length < bound := by
            have := List.length_pos_iff.mpr nonempty
            rw [← length, List.length_append]
            omega
          have behind : source.LeavesAt after.lexer.offset back := by
            rw [width]
            exact left.drop
          obtain ⟨outcome, last, run, made⟩ := ih back.length shorter behind rfl
          refine ⟨outcome, last, (run_of_turn turn).trans run, ?_⟩
          rw [made, outline, segments]

end Walk

namespace Source

variable (source : Source)

theorem segmentation_eq_outline :
    ∃ events, source.segmentation =
      .ok ⟨(Outline.segments 0 source.chars).map Template.mk, events⟩ := by
  obtain ⟨outcome, last, run, made⟩ :=
    Walk.run_eq_rest (w := Walk.start source) source.leavesAt_zero
  have whole : Outline.rest none [] 0 source.chars = Outline.segments 0 source.chars := by
    rw [Outline.rest]
    cases Outline.segments 0 source.chars <;> rfl
  have made := Eq.trans made whole
  rw [segmentation, run, ← made]
  cases outcome with
  | error error => exact ⟨_, rfl⟩
  | ok => exact ⟨_, rfl⟩

theorem segment_eq_ok_iff {outcome : Except TemplateError Template} :
    source.segment = .ok outcome ↔
      (Outline.segments 0 source.chars).map Template.mk = outcome := by
  obtain ⟨events, segmented⟩ := source.segmentation_eq_outline
  rw [segment, segmented]
  constructor
  · exact Except.ok.inj
  · exact congrArg Except.ok

/-- **Segmenting a source reads its outline.** It meets no fault, and gives the segments that the
text has by itself, or the error at the construct that the text leaves open. -/
theorem segment_eq_outline :
    source.segment = .ok ((Outline.segments 0 source.chars).map Template.mk) := by
  obtain ⟨events, outcome⟩ := source.segmentation_eq_outline
  rw [segment, outcome]
  rfl

end Source

end TemplateScan
