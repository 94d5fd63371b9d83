import TemplateScan.Proofs.Lexer
import TemplateScan.Proofs.Template.Outline
import TemplateScan.Template.Segmentation

/-! # What one turn of a walk does

`Move.of` tells a turn by the text that is left: where the host goes, which directive it is then
in, and the segments and the lines of the log that it adds. At a character boundary every turn of a
walk is the one told (`Walk.step_takes`), so no turn meets a fault, and a walk ends at a
boundary whenever it started at one.
-/

namespace TemplateScan

open Outline (openWidth trimsLeft)

/-- What a turn comes to. -/
inductive Move where
  | finish
  | fail (error : TemplateError) (events : List Event)
  | go (offset : Nat) (pending : Option OpenDirective) (segments : List Segment)
      (events : List Event)
deriving DecidableEq, Repr

namespace Move

/-- The span of literal text at the start of a text. -/
def contentSpan (offset : Nat) (text : List Char) : Span :=
  ⟨offset, offset + (firstAt? ['[', '%'] text).getD (byteLength text)⟩

/-- A turn between directives. -/
def outside (offset : Nat) (text : List Char) : Move :=
  if text = [] then .finish
  else if ['[', '%'] <+: text then
    let opening : Span := ⟨offset, offset + openWidth (trimsLeft text)⟩
    .go opening.stop (some { opening := opening, trimLeft := trimsLeft text }) []
      [.scanned offset .everything none, .directiveOpened opening (trimsLeft text)]
  else if ['/', '*'] <+: text then
    match breakAt? ['*', '/'] (text.drop 2) with
    | none =>
        .fail (.unterminatedComment ⟨offset, offset + byteLength text⟩)
          [.scanned offset .everything none]
    | some (inner, _) =>
        let comment : Span := ⟨offset, offset + 2 + byteLength inner + 2⟩
        .go comment.stop none [.comment comment]
          [.scanned offset .everything (some ⟨.comment, comment⟩)]
  else
    let content := contentSpan offset text
    .go content.stop none [.content content]
      (if text.head? = some '/' then
        [.scanned offset .everything none, .slashRescanned offset,
          .scanned offset (.only .content) (some ⟨.content, content⟩)]
      else [.scanned offset .everything (some ⟨.content, content⟩)])

/-- A turn in a directive at a place without blanks, where comments have been asked for in vain. -/
def code (d : OpenDirective) (offset : Nat) (text : List Char) (events : List Event) : Move :=
  match text with
  | [] => .fail (.unterminatedDirective d.opening) events
  | c :: rest =>
      if ['-', '%', ']'] <+: c :: rest then
        .go (offset + 3) none [.directive (d.close ⟨offset, offset + 3⟩ true)]
          (events ++ [.directiveClosed ⟨offset, offset + 3⟩ d.comments.size])
      else if ['%', ']'] <+: c :: rest then
        .go (offset + 2) none [.directive (d.close ⟨offset, offset + 2⟩ false)]
          (events ++ [.directiveClosed ⟨offset, offset + 2⟩ d.comments.size])
      else if ['/', '*'] <+: c :: rest then
        .fail (.unterminatedComment ⟨offset, offset + byteLength (c :: rest)⟩) events
      else if c = '\x22' ∨ c = '\x27' then
        match splitString? c rest with
        | none => .fail (.unterminatedString ⟨offset, offset + byteLength (c :: rest)⟩) events
        | some (literal, _) => .go (offset + 1 + byteLength literal) (some d) [] events
      else .go (offset + c.utf8Size) (some d) [] events

/-- A turn in a directive. -/
def inside (d : OpenDirective) (offset : Nat) (text : List Char) : Move :=
  match tokenAt? (.only .comment) offset text with
  | some token =>
      .go token.span.stop (some { d with comments := d.comments.push token.span }) []
        [.scanned offset (.only .comment) (some token)]
  | none =>
      code d (offset + byteLength (text.takeWhile isBlank)) (text.dropWhile isBlank)
        [.scanned offset (.only .comment) none]

/-- A turn at an offset where `text` is left. -/
def of (pending : Option OpenDirective) (offset : Nat) (text : List Char) : Move :=
  match pending with
  | none => outside offset text
  | some d => inside d offset text

end Move

namespace Walk

variable {source : Source} {w : Walk source} {c : Char} {text : List Char}

/-! ### Turns at a boundary -/

theorem scan_accepted {offered : Offered} {token : Token}
    (left : source.LeavesAt w.lexer.offset text)
    (accepted : tokenAt? offered w.lexer.offset text = some token) :
    ∃ lexer : Lexer source, lexer.offset = token.span.stop ∧
      w.scan offered = (some token, { w with
        lexer := lexer
        events := w.events.push (.scanned w.lexer.offset offered (some token)) }) := by
  obtain ⟨found, offset⟩ := Lexer.scan_of_leavesAt left offered
  rw [accepted] at found offset
  refine ⟨(w.lexer.scan offered).2, offset, ?_⟩
  rw [← found]
  rfl

theorem scan_refused {offered : Offered} (left : source.LeavesAt w.lexer.offset text)
    (refused : tokenAt? offered w.lexer.offset text = none) :
    ∃ lexer : Lexer source, lexer.offset = w.lexer.offset ∧
      w.scan offered = (none, { w with
        lexer := lexer
        events := w.events.push (.scanned w.lexer.offset offered none) }) := by
  obtain ⟨found, offset⟩ := Lexer.scan_of_leavesAt left offered
  rw [refused] at found offset
  refine ⟨(w.lexer.scan offered).2, offset, ?_⟩
  rw [← found]
  rfl

theorem moveTo_eq {offset : Nat} (bound : offset ≤ source.size) :
    w.moveTo offset = .ok { w with lexer := { w.lexer with offset := offset } } := by
  rw [moveTo, Lexer.setOffset_eq bound]
  rfl

theorem moveOver_eq (left : source.LeavesAt w.lexer.offset (c :: text)) :
    w.moveOver =
      .ok { w with lexer := { w.lexer with offset := w.lexer.offset + c.utf8Size } } := by
  rw [moveOver, Lexer.bumpChar_eq left]
  rfl

/-- A turn that a walk takes is the one told: what it adds comes behind what the walk has. -/
def Takes (w : Walk source) (turn : Checked (Turn source)) : Move → Prop
  | .finish => turn = .ok (.finished w)
  | .fail error events =>
      ∃ after, turn = .ok (.failed error after) ∧
        after.events.toList = w.events.toList ++ events
  | .go offset pending segments events =>
      ∃ after, turn = .ok (.next after) ∧ after.lexer.offset = offset ∧
        after.pending = pending ∧ after.segments.toList = w.segments.toList ++ segments ∧
        after.events.toList = w.events.toList ++ events

theorem leavesAt_behind_opening (left : source.LeavesAt w.lexer.offset text)
    (marked : ['[', '%'] <+: text) :
    source.LeavesAt (w.lexer.offset + openWidth (trimsLeft text))
      (text.drop (openWidth (trimsLeft text))) := by
  obtain ⟨marker, parts, width⟩ := Outline.append_of_opening marked
  rw [parts] at left
  have behind := left.drop
  rwa [width] at behind

theorem openDirective_eq (left : source.LeavesAt w.lexer.offset text)
    (marked : ['[', '%'] <+: text) :
    w.openDirective = .ok (.next { w with
      lexer := { w.lexer with offset := w.lexer.offset + openWidth (trimsLeft text) }
      pending := some {
        opening := ⟨w.lexer.offset, w.lexer.offset + openWidth (trimsLeft text)⟩
        trimLeft := trimsLeft text }
      events := w.events.push (.directiveOpened
        ⟨w.lexer.offset, w.lexer.offset + openWidth (trimsLeft text)⟩ (trimsLeft text)) }) := by
  have trims : w.lexer.startsWith Marker.directiveOpenTrim = trimsLeft text := by
    rw [Bool.eq_iff_iff, Lexer.startsWith_iff left, trimsLeft, decide_eq_true_eq]
    rfl
  have bound := (leavesAt_behind_opening left marked).le_size
  have moved := moveTo_eq (w := w) bound
  simp only [openDirective, trims]
  change (w.moveTo (w.lexer.offset + openWidth (trimsLeft text)) >>= _) = _
  rw [moved]
  rfl

theorem closeDirective_eq {d : OpenDirective} {width : Nat}
    (bound : w.lexer.offset + width ≤ source.size) :
    w.closeDirective d width = .ok (.next { w with
      lexer := { w.lexer with offset := w.lexer.offset + width }
      pending := none
      segments := w.segments.push
        (.directive (d.close ⟨w.lexer.offset, w.lexer.offset + width⟩ (width == 3)))
      events := w.events.push
        (.directiveClosed ⟨w.lexer.offset, w.lexer.offset + width⟩ d.comments.size) }) := by
  have moved := moveTo_eq (w := w) bound
  unfold closeDirective
  change (w.moveTo (w.lexer.offset + width) >>= _) = _
  rw [moved]
  rfl

theorem rescanSlash_eq {token : Token} (left : source.LeavesAt w.lexer.offset text)
    (accepted : contentAt? w.lexer.offset text = some token) :
    ∃ lexer : Lexer source, lexer.offset = token.span.stop ∧
      w.rescanSlash = .ok (.next { w with
        lexer := lexer
        segments := w.segments.push (.content token.span)
        events := (w.events.push (.slashRescanned w.lexer.offset)).push
          (.scanned w.lexer.offset (.only .content) (some token)) }) := by
  have accepted : tokenAt? (.only .content) w.lexer.offset text = some token := accepted
  obtain ⟨lexer, offset, scanned⟩ :=
    scan_accepted (w := w.note (.slashRescanned w.lexer.offset)) left accepted
  refine ⟨lexer, offset, ?_⟩
  rw [rescanSlash, scanned]
  rfl

theorem step_of_accepted {token : Token} (left : source.LeavesAt w.lexer.offset text)
    (between : w.pending = none) (nonempty : text ≠ [])
    (accepted : tokenAt? .everything w.lexer.offset text = some token) :
    ∃ lexer : Lexer source, lexer.offset = token.span.stop ∧
      w.step = .ok (.next { w with
        lexer := lexer
        segments := w.segments.push (.ofToken token)
        events := w.events.push (.scanned w.lexer.offset .everything (some token)) }) := by
  have opened : ¬ w.lexer.isAtEnd = true := by
    intro ended
    exact nonempty ((Lexer.isAtEnd_iff left).mp ended)
  obtain ⟨lexer, offset, scanned⟩ := scan_accepted left accepted
  have turn : w.step = w.stepOutside := by rw [step, between]
  refine ⟨lexer, offset, ?_⟩
  rw [turn, stepOutside, if_neg opened, scanned]
  rfl

/-- What a refusal between directives leads to is told by what stands there. -/
theorem step_of_refused (left : source.LeavesAt w.lexer.offset text)
    (between : w.pending = none) (nonempty : text ≠ [])
    (refused : tokenAt? .everything w.lexer.offset text = none) :
    ∃ lexer : Lexer source, lexer.offset = w.lexer.offset ∧
      let v : Walk source := { w with
        lexer := lexer
        events := w.events.push (.scanned w.lexer.offset .everything none) }
      w.step = if ['[', '%'] <+: text then v.openDirective
        else if ['/', '*'] <+: text then .ok (.failed (.unterminatedComment lexer.spanToEnd) v)
        else v.rescanSlash := by
  have opened : ¬ w.lexer.isAtEnd = true := by
    intro ended
    exact nonempty ((Lexer.isAtEnd_iff left).mp ended)
  obtain ⟨lexer, offset, scanned⟩ := scan_refused left refused
  have left : source.LeavesAt lexer.offset text := by rwa [offset]
  have turn : w.step = w.stepOutside := by rw [step, between]
  refine ⟨lexer, offset, ?_⟩
  rw [turn, stepOutside, if_neg opened, scanned]
  simp only [Lexer.startsWith_iff left]
  rfl

theorem contentTurn_takes (left : source.LeavesAt w.lexer.offset text)
    (between : w.pending = none) (nonempty : text ≠ []) (unmarked : ¬ ['[', '%'] <+: text)
    (uncommented : ¬ ['/', '*'] <+: text) :
    w.Takes w.step (.outside w.lexer.offset text) := by
  have token : contentAt? w.lexer.offset text =
      some ⟨.content, Move.contentSpan w.lexer.offset text⟩ :=
    contentAt?_of_unmarked nonempty unmarked
  rw [Move.outside, if_neg nonempty, if_neg unmarked, if_neg uncommented]
  by_cases slash : text.head? = some '/'
  · have refused : tokenAt? .everything w.lexer.offset text = none := by
      rw [tokenAt?_everything, if_pos slash, commentAt?_of_no_opening uncommented]
    obtain ⟨lexer, offset, turn⟩ := step_of_refused left between nonempty refused
    have left : source.LeavesAt lexer.offset text := by rwa [offset]
    rw [← offset] at token
    obtain ⟨rescanned, stop, rescan⟩ := rescanSlash_eq (w := { w with
      lexer := lexer
      events := w.events.push (.scanned w.lexer.offset .everything none) }) left token
    dsimp only at turn
    rw [if_neg unmarked, if_neg uncommented, rescan] at turn
    rw [offset] at stop
    refine ⟨_, turn, ?_⟩
    simp [slash, stop, offset, between]
  · have accepted : tokenAt? .everything w.lexer.offset text =
        some ⟨.content, Move.contentSpan w.lexer.offset text⟩ := by
      rw [tokenAt?_everything, if_neg slash, token]
    obtain ⟨lexer, offset, turn⟩ := step_of_accepted left between nonempty accepted
    refine ⟨_, turn, ?_⟩
    simp [slash, offset, between, Segment.ofToken]

theorem stepOutside_takes (left : source.LeavesAt w.lexer.offset text)
    (between : w.pending = none) : w.Takes w.step (.outside w.lexer.offset text) := by
  by_cases empty : text = []
  · have turn : w.step = w.stepOutside := by rw [step, between]
    rw [Move.outside, if_pos empty, Takes, turn, stepOutside,
      if_pos ((Lexer.isAtEnd_iff left).mpr empty)]
  by_cases marked : ['[', '%'] <+: text
  · obtain ⟨lexer, offset, turn⟩ :=
      step_of_refused left between empty (tokenAt?_of_marked _ marked)
    have left : source.LeavesAt lexer.offset text := by rwa [offset]
    dsimp only at turn
    rw [if_pos marked, openDirective_eq left marked] at turn
    rw [Move.outside, if_neg empty, if_pos marked]
    refine ⟨_, turn, ?_⟩
    simp [offset]
  by_cases opening : ['/', '*'] <+: text
  · have token := tokenAt?_of_opening w.lexer.offset opening
    rw [Move.outside, if_neg empty, if_neg marked, if_pos opening]
    cases found : breakAt? ['*', '/'] (text.drop 2) with
    | none =>
        rw [found] at token
        obtain ⟨lexer, offset, turn⟩ := step_of_refused left between empty token
        have left : source.LeavesAt lexer.offset text := by rwa [offset]
        dsimp only at turn
        rw [if_neg marked, if_pos opening, Lexer.spanToEnd_eq left, offset] at turn
        exact ⟨_, turn, by simp⟩
    | some parts =>
        rw [found] at token
        obtain ⟨lexer, offset, turn⟩ := step_of_accepted left between empty token
        refine ⟨_, turn, ?_⟩
        simp [offset, between, Segment.ofToken]
  exact contentTurn_takes left between empty marked opening

theorem closeWidth?_eq (left : source.LeavesAt w.lexer.offset text) :
    w.closeWidth? = if ['-', '%', ']'] <+: text then some 3
      else if ['%', ']'] <+: text then some 2 else none := by
  simp only [closeWidth?, Lexer.startsWith_iff left]
  rfl

theorem stepString_eq {quote : Char} (left : source.LeavesAt w.lexer.offset (quote :: text))
    (narrow : quote.utf8Size = 1) :
    w.stepString quote.toUInt8 =
      match splitString? quote text with
      | some (literal, _) =>
          .ok (.next { w with
            lexer := { w.lexer with offset := w.lexer.offset + 1 + byteLength literal } })
      | none => .ok (.failed (.unterminatedString w.lexer.spanToEnd) w) := by
  have behind := left.tail
  rw [narrow] at behind
  have ending := behind.stringEnd_eq narrow
  have searched : source.stringEnd quote.toUInt8 (w.lexer.offset + 1) = _ := ending
  rw [stepString, searched]
  cases found : splitString? quote text with
  | none => rfl
  | some parts =>
      obtain ⟨literal, after⟩ := parts
      rw [append_of_splitString? found] at behind
      change (w.moveTo (w.lexer.offset + 1 + byteLength literal) >>= _) = _
      rw [moveTo_eq behind.drop.le_size]
      rfl

/-- A turn in a directive, from where its attempt at a comment was refused and its blanks passed. -/
theorem stepCode_takes {v : Walk source} {d : OpenDirective} {events : List Event}
    (left : source.LeavesAt v.lexer.offset text) (pending : v.pending = some d)
    (segments : v.segments = w.segments)
    (logged : v.events.toList = w.events.toList ++ events) :
    w.Takes (v.stepCode d) (.code d v.lexer.offset text events) := by
  have peeked : v.lexer.peek? = text.head? := left.charAt?_eq
  rw [stepCode, peeked]
  cases text with
  | nil => exact ⟨v, rfl, logged⟩
  | cons c rest =>
      rw [Move.code]
      simp only [List.head?_cons, closeWidth?_eq left]
      by_cases trimmed : ['-', '%', ']'] <+: c :: rest
      · have bound := (left.drop_marker trimmed).le_size
        rw [if_pos trimmed, if_pos trimmed]
        refine ⟨_, closeDirective_eq bound, ?_⟩
        simp [segments, logged]
      rw [if_neg trimmed, if_neg trimmed]
      by_cases closed : ['%', ']'] <+: c :: rest
      · have bound := (left.drop_marker closed).le_size
        rw [if_pos closed, if_pos closed]
        refine ⟨_, closeDirective_eq bound, ?_⟩
        simp [segments, logged]
      rw [if_neg closed, if_neg closed]
      by_cases opening : ['/', '*'] <+: c :: rest
      · rw [if_pos opening]
        dsimp only
        rw [if_pos ((Lexer.startsWith_iff left Marker.commentOpen).mpr opening),
          Lexer.spanToEnd_eq left]
        exact ⟨v, rfl, logged⟩
      rw [if_neg opening]
      dsimp only
      rw [if_neg (fun starts => opening
        ((Lexer.startsWith_iff left Marker.commentOpen).mp starts))]
      by_cases quoted : c = '\x22' ∨ c = '\x27'
      · have narrow := Outline.utf8Size_of_quote quoted
        rw [if_pos quoted, if_pos quoted, stepString_eq left narrow]
        cases splitString? c rest with
        | none =>
            rw [Lexer.spanToEnd_eq left]
            exact ⟨v, rfl, logged⟩
        | some parts => exact ⟨_, rfl, rfl, pending, by rw [segments, List.append_nil], logged⟩
      · rw [if_neg quoted, if_neg quoted, moveOver_eq left]
        exact ⟨_, rfl, rfl, pending, by rw [segments, List.append_nil], logged⟩

theorem stepInside_takes {d : OpenDirective} (left : source.LeavesAt w.lexer.offset text)
    (within : w.pending = some d) : w.Takes w.step (.inside d w.lexer.offset text) := by
  have turn : w.step = w.stepInside d := by rw [step, within]
  rw [stepInside] at turn
  rw [Move.inside]
  cases token : tokenAt? (.only .comment) w.lexer.offset text with
  | some token =>
      obtain ⟨lexer, offset, scanned⟩ := scan_accepted left token
      rw [scanned] at turn
      refine ⟨_, turn, ?_⟩
      simp [offset]
  | none =>
      obtain ⟨lexer, offset, scanned⟩ := scan_refused left token
      have skipped := left.skipBlanks_eq
      rw [← List.takeWhile_append_dropWhile (p := isBlank) (l := text)] at left
      rw [scanned] at turn
      dsimp only at turn
      rw [offset, skipped, moveTo_eq left.drop.le_size] at turn
      rw [turn]
      exact stepCode_takes left.drop within rfl (by simp)

/-- **Turns are told by the text.** At a character boundary a walk meets no fault, and does what the
text that is left there says. -/
theorem step_takes (left : source.LeavesAt w.lexer.offset text) :
    w.Takes w.step (.of w.pending w.lexer.offset text) := by
  cases pending : w.pending with
  | none => exact stepOutside_takes left pending
  | some d => exact stepInside_takes left pending

end Walk

end TemplateScan
