import TemplateScan.Proofs.Lexer.Reach
import TemplateScan.Proofs.Template.Segmentation

/-! # Walks meet no guard

A guarded walk takes the turns of a walk and says at each place what it relies on: that the host is
at a character wherever the text that is left is read, that a string is looked through from
characters only, that sums of offsets are offsets, that the host is not moved behind the end, and
that literal text is not refused where nothing else starts. At a character none of it fails, and the
turn leaves the host at a character again (`Walk.step_safe`). Each turn moves the host
forward, so a walk meets no guard up to its end, and ends (`Source.safelyWalked`).
-/

namespace TemplateScan

/-- What a walk could slip on. -/
inductive Slip where
  /-- An index or a machine word traps. -/
  | trap (trap : Trap)
  /-- The host is moved behind the end. -/
  | fault (fault : Fault)
  /-- Text is read on from inside a character or from behind the end. -/
  | split (offset : Nat)
  /-- Literal text is refused where nothing else starts. -/
  | refused (offset : Nat)
deriving DecidableEq, Repr

/-! ### Guarded turns -/

/-- `stringEnd` with a guard at every place that text is read on from. -/
def Source.stringEndGuarded (source : Source) (quote : UInt8) (offset : Nat) :
    Except Slip (Option Nat) :=
  if source.isBoundary offset then
    match _hfound : source.findEither? quote backslash offset with
    | none => .ok none
    | some found =>
        if source.byteAt found = quote then
          .ok (some (found + 1))
        else if source.isBoundary (found + 1) then
          let width := (source.charAt? (found + 1)).elim 0 Char.utf8Size
          source.stringEndGuarded quote (found + 1 + width)
        else
          .error (.split (found + 1))
  else
    .error (.split offset)
termination_by source.size - offset
decreasing_by
  have hbounds := Source.findEither?_bounds _hfound
  omega

namespace Walk

variable {source : Source}

/-- What the host has not consumed, guarded against a place inside a character. -/
def restGuarded (w : Walk source) : Except Slip (List Char) :=
  if source.isBoundary w.lexer.offset then .ok w.lexer.rest.toList
  else .error (.split w.lexer.offset)

/-- Moves the host forward by a number of bytes. -/
def bumpGuarded (w : Walk source) (bytes : Nat) : Except Slip (Walk source) := do
  return { w with lexer := ← (w.lexer.bump bytes).mapError .fault }

/-- Moves the host over one character, on machine words. -/
def bumpCharGuarded (w : Walk source) : Except Slip (Walk source) := do
  let moved ← w.lexer.bumpCharTrapping.mapError .trap
  return { w with lexer := ← moved.mapError .fault }

/-- `openDirective` with guards. -/
def openGuarded (w : Walk source) : Except Slip (Turn source) := do
  let rest ← w.restGuarded
  let trimLeft := decide (Marker.directiveOpenTrim <+: rest)
  let width := if trimLeft then 3 else 2
  let opening : Span := ⟨w.lexer.offset, ← (Trap.sum w.lexer.offset width).mapError .trap⟩
  let w ← w.bumpGuarded width
  let w := w.note (.directiveOpened opening trimLeft)
  return .next { w with pending := some { opening := opening, trimLeft := trimLeft } }

/-- `closeDirective` with guards. -/
def closeGuarded (w : Walk source) (d : OpenDirective) (width : Nat) :
    Except Slip (Turn source) := do
  let closing : Span := ⟨w.lexer.offset, ← (Trap.sum w.lexer.offset width).mapError .trap⟩
  let w ← w.bumpGuarded width
  let w := w.note (.directiveClosed closing d.comments.size)
  let w := w.push (.directive (d.close closing (width == 3)))
  return .next { w with pending := none }

/-- `rescanSlash` with a guard in place of the move over a character that is refused. -/
def rescanGuarded (w : Walk source) : Except Slip (Turn source) :=
  match (w.note (.slashRescanned w.lexer.offset)).scan (.only .content) with
  | (some token, w) => .ok (.next (w.push (.content token.span)))
  | (none, w) => .error (.refused w.lexer.offset)

/-- `stepOutside` with guards. -/
def outsideGuarded (w : Walk source) : Except Slip (Turn source) :=
  if w.lexer.isAtEnd then
    .ok (.finished w)
  else
    match w.scan .everything with
    | (some token, w) => .ok (.next (w.push (.ofToken token)))
    | (none, w) => do
        let rest ← w.restGuarded
        if Marker.directiveOpen <+: rest then
          w.openGuarded
        else if Marker.commentOpen <+: rest then
          return .failed (.unterminatedComment w.lexer.spanToEnd) w
        else
          w.rescanGuarded

/-- `stepString` with guards. -/
def stringGuarded (w : Walk source) (quote : UInt8) : Except Slip (Turn source) := do
  match ← source.stringEndGuarded quote (w.lexer.offset + 1) with
  | some stop => return .next (← w.bumpGuarded (stop - w.lexer.offset))
  | none => return .failed (.unterminatedString w.lexer.spanToEnd) w

/-- `stepCode` with guards. -/
def codeGuarded (w : Walk source) (d : OpenDirective) : Except Slip (Turn source) := do
  match ← w.restGuarded with
  | [] => return .failed (.unterminatedDirective d.opening) w
  | c :: rest =>
      if Marker.directiveCloseTrim <+: c :: rest then
        w.closeGuarded d 3
      else if Marker.directiveClose <+: c :: rest then
        w.closeGuarded d 2
      else if Marker.commentOpen <+: c :: rest then
        return .failed (.unterminatedComment w.lexer.spanToEnd) w
      else if c = '\x22' ∨ c = '\x27' then
        w.stringGuarded c.toUInt8
      else
        .next <$> w.bumpCharGuarded

/-- `stepInside` with guards. The blanks are measured by what is left without them. -/
def insideGuarded (w : Walk source) (d : OpenDirective) : Except Slip (Turn source) :=
  match w.scan (.only .comment) with
  | (some token, w) =>
      .ok (.next { w with pending := some { d with comments := d.comments.push token.span } })
  | (none, w) => do
      let rest ← w.restGuarded
      let blanks ← (Trap.difference (byteLength rest)
        (byteLength (rest.dropWhile isBlank))).mapError .trap
      let w ← w.bumpGuarded blanks
      w.codeGuarded d

/-- One turn with guards. -/
def stepGuarded (w : Walk source) : Except Slip (Turn source) :=
  match w.pending with
  | none => w.outsideGuarded
  | some d => w.insideGuarded d

end Walk

/-- The walk that a turn leaves. -/
def Turn.walk {source : Source} : Turn source → Walk source
  | .next walk => walk
  | .finished walk => walk
  | .failed _ walk => walk

/-- What the last turn of a walk comes to. -/
def Turn.outcome? {source : Source} : Turn source → Option (Except TemplateError Unit × Walk source)
  | .next _ => none
  | .finished walk => some (.ok (), walk)
  | .failed error walk => some (.error error, walk)

/-! ### Guards are met at characters -/

theorem Trap.sum_of_le {left right : Nat} (bound : left + right ≤ maxOffset) :
    Trap.sum left right = .ok (left + right) := by
  rw [Trap.sum, if_pos bound]

namespace Source

variable {source : Source} {offset : Nat} {text : List Char} {quote : Char}

/-- What is found by bytes, from a character on, is a character. -/
theorem LeavesAt.of_findEither? {found : Nat} (left : source.LeavesAt offset text)
    (narrow : quote.utf8Size = 1)
    (here : source.findEither? quote.val.toUInt8 backslash offset = some found) :
    ∃ c back, source.LeavesAt found (c :: back) ∧ (c = quote ∨ c = '\\') := by
  induction text generalizing offset with
  | nil =>
      have bounds := findEither?_bounds here
      have ends := left.add_byteLength
      rw [byteLength_nil] at ends
      omega
  | cons c text ih =>
      by_cases sign : c = quote ∨ c = '\\'
      · rw [left.findEither?_eq_here sign narrow] at here
        cases here
        exact ⟨c, text, left, sign⟩
      · obtain ⟨different, plain⟩ := not_or.mp sign
        rw [left.findEither?_eq_add narrow different plain] at here
        exact ih left.tail here

/-- What is found and is no quote is an escape sign, and a character or the end is behind it. -/
theorem LeavesAt.behind_escape {found : Nat} (left : source.LeavesAt offset text)
    (narrow : quote.utf8Size = 1)
    (here : source.findEither? quote.val.toUInt8 backslash offset = some found)
    (other : ¬ source.byteAt found = quote.val.toUInt8) :
    ∃ back, source.LeavesAt (found + 1) back := by
  obtain ⟨c, back, behind, sign⟩ := left.of_findEither? narrow here
  rcases sign with rfl | rfl
  · exact absurd ((byte_eq_ascii_iff narrow behind.lead_eq).mpr rfl) other
  · exact ⟨back, behind.tail⟩

theorem stringEndGuarded_of_found {quote : UInt8} {found : Nat}
    (boundary : source.isBoundary offset = true)
    (here : source.findEither? quote backslash offset = some found) :
    source.stringEndGuarded quote offset =
      if source.byteAt found = quote then .ok (some (found + 1))
      else if source.isBoundary (found + 1) then
        source.stringEndGuarded quote
          (found + 1 + (source.charAt? (found + 1)).elim 0 Char.utf8Size)
      else .error (.split (found + 1)) := by
  rw [stringEndGuarded, if_pos boundary]
  split
  · next absent => rw [here] at absent; cases absent
  · next again => rw [here] at again; cases again; rfl

theorem stringEndGuarded_of_absent {quote : UInt8} (boundary : source.isBoundary offset = true)
    (absent : source.findEither? quote backslash offset = none) :
    source.stringEndGuarded quote offset = .ok none := by
  rw [stringEndGuarded, if_pos boundary]
  split
  · rfl
  · next found => rw [absent] at found; cases found

/-- A string is looked through from characters only: guards change nothing of where it ends. -/
theorem LeavesAt.stringEndGuarded_eq (left : source.LeavesAt offset text)
    (narrow : quote.utf8Size = 1) :
    source.stringEndGuarded quote.val.toUInt8 offset =
      (source.stringEnd quote.val.toUInt8 offset).mapError .fault := by
  fun_induction stringEnd source quote.val.toUInt8 offset generalizing text with
  | case1 offset absent => exact stringEndGuarded_of_absent left.isBoundary absent
  | case2 offset found here same =>
      rw [stringEndGuarded_of_found left.isBoundary here, if_pos same]
      rfl
  | case3 offset found here other inside escaped read ih =>
      obtain ⟨back, behind⟩ := left.behind_escape narrow here other
      have first := behind.charAt?_eq
      rw [stringEndGuarded_of_found left.isBoundary here, if_neg other, if_pos behind.isBoundary,
        read]
      rw [read] at first
      cases back with
      | nil => cases first
      | cons c back =>
          cases first
          exact ih behind.tail
  | case4 offset found here other inside unread =>
      obtain ⟨back, behind⟩ := left.behind_escape narrow here other
      have first := behind.charAt?_eq
      have ends := behind.add_byteLength
      rw [unread] at first
      rw [List.head?_eq_none_iff.mp first.symm, byteLength_nil] at ends
      omega
  | case5 offset found here other ended ih =>
      obtain ⟨back, behind⟩ := left.behind_escape narrow here other
      have ends := behind.add_byteLength
      have nothing : back = [] := by
        apply Classical.byContradiction
        intro nonempty
        have := byteLength_pos nonempty
        omega
      rw [stringEndGuarded_of_found left.isBoundary here, if_neg other, if_pos behind.isBoundary,
        behind.charAt?_eq, nothing]
      exact ih behind

end Source

namespace Lexer

variable {source : Source} {l : Lexer source}

/-- A host that is in bounds and at a character. -/
structure Placed (l : Lexer source) : Prop where
  inBounds : l.InBounds
  boundary : source.isBoundary l.offset = true

theorem Placed.moved {offset : Nat} {text : List Char} (placed : l.Placed)
    (left : source.LeavesAt offset text) :
    ({ l with offset := offset } : Lexer source).Placed where
  inBounds := ⟨left.le_size, placed.inBounds.start_le, placed.inBounds.probe_le,
    placed.inBounds.marked_le⟩
  boundary := left.isBoundary

/-- An attempt leaves a host at a character, whether it is accepted or refused. -/
theorem Placed.scan (placed : l.Placed) (offered : Offered) : (l.scan offered).2.Placed := by
  rw [scan_eq_play]
  generalize Script.mk [.scan offered] _ = script
  refine ⟨placed.inBounds.play script, ?_⟩
  have attempted := attempted_play placed.inBounds script
  cases outcome : (l.play script).2.1 with
  | none =>
      rw [attempted.refused outcome]
      exact placed.boundary
  | some token =>
      have stop := (attempted.accepted token outcome).2.2.1
      rw [← stop]
      exact (attempted.boundaries placed.boundary token outcome).2

end Lexer

namespace Walk

open Outline (openWidth trimsLeft)

variable {source : Source} {w after : Walk source} {text : List Char} {c : Char}
  {d : OpenDirective}

/-- A turn that is safe: with guards and without it comes to the same, and it leaves the host at a
character. -/
def Safe (plain : Checked (Turn source)) (guarded : Except Slip (Turn source)) : Prop :=
  ∃ turn, plain = .ok turn ∧ guarded = .ok turn ∧ turn.walk.lexer.Placed

theorem placed_of_scan {offered : Offered} {token : Option Token}
    (placed : w.lexer.Placed) (scanned : w.scan offered = (token, after)) :
    after.lexer.Placed := by
  have same : (w.scan offered).2.lexer = (w.lexer.scan offered).2 := rfl
  rw [scanned] at same
  rw [same]
  exact placed.scan offered

theorem restGuarded_eq (left : source.LeavesAt w.lexer.offset text) :
    w.restGuarded = .ok text := by
  rw [restGuarded, if_pos left.isBoundary, Lexer.rest_eq left]

theorem bumpGuarded_eq {bytes : Nat} (fits : source.size ≤ maxOffset)
    (bound : w.lexer.offset + bytes ≤ source.size) :
    w.bumpGuarded bytes =
      .ok { w with lexer := { w.lexer with offset := w.lexer.offset + bytes } } := by
  rw [bumpGuarded, Lexer.bump, Nat.min_eq_left (Nat.le_trans bound fits),
    Lexer.setOffset_eq bound]
  rfl

theorem bumpCharGuarded_eq (fits : source.size ≤ maxOffset)
    (left : source.LeavesAt w.lexer.offset (c :: text)) :
    w.bumpCharGuarded =
      .ok { w with lexer := { w.lexer with offset := w.lexer.offset + c.utf8Size } } := by
  rw [bumpCharGuarded, Lexer.bumpCharTrapping_eq fits left.le_size, Lexer.bumpChar_eq left]
  rfl

theorem open_safe (fits : source.size ≤ maxOffset) (placed : w.lexer.Placed)
    (left : source.LeavesAt w.lexer.offset text) (marked : ['[', '%'] <+: text) :
    Safe w.openDirective w.openGuarded := by
  have behind := leavesAt_behind_opening left marked
  refine ⟨_, openDirective_eq left marked, ?_, placed.moved behind⟩
  rw [openGuarded, restGuarded_eq left]
  change ((Trap.sum w.lexer.offset (openWidth (trimsLeft text))).mapError Slip.trap >>= _) = _
  rw [Trap.sum_of_le (Nat.le_trans behind.le_size fits)]
  change (w.bumpGuarded (openWidth (trimsLeft text)) >>= _) = _
  rw [bumpGuarded_eq fits behind.le_size]
  rfl

theorem close_safe {width : Nat} {rest : List Char} (fits : source.size ≤ maxOffset)
    (placed : w.lexer.Placed) (behind : source.LeavesAt (w.lexer.offset + width) rest) :
    Safe (w.closeDirective d width) (w.closeGuarded d width) := by
  refine ⟨_, closeDirective_eq behind.le_size, ?_, placed.moved behind⟩
  rw [closeGuarded, Trap.sum_of_le (Nat.le_trans behind.le_size fits)]
  change (w.bumpGuarded width >>= _) = _
  rw [bumpGuarded_eq fits behind.le_size]
  rfl

/-- Where some text is left that opens no directive, literal text is not refused. -/
theorem rescan_safe (placed : w.lexer.Placed) (left : source.LeavesAt w.lexer.offset text)
    (nonempty : text ≠ []) (unmarked : ¬ ['[', '%'] <+: text) :
    Safe w.rescanSlash w.rescanGuarded := by
  have accepted : tokenAt? (.only .content) w.lexer.offset text =
      some ⟨.content, Move.contentSpan w.lexer.offset text⟩ :=
    contentAt?_of_unmarked nonempty unmarked
  obtain ⟨lexer, _, scanned⟩ :=
    scan_accepted (w := w.note (.slashRescanned w.lexer.offset)) left accepted
  have behind := placed_of_scan (w := w.note (.slashRescanned w.lexer.offset)) placed scanned
  rw [rescanSlash, rescanGuarded, scanned]
  exact ⟨_, rfl, rfl, behind⟩

theorem string_safe {quote : Char} (fits : source.size ≤ maxOffset) (placed : w.lexer.Placed)
    (left : source.LeavesAt w.lexer.offset (quote :: text)) (narrow : quote.utf8Size = 1) :
    Safe (w.stepString quote.toUInt8) (w.stringGuarded quote.toUInt8) := by
  have behind := left.tail
  rw [narrow] at behind
  have guarded : source.stringEndGuarded quote.toUInt8 (w.lexer.offset + 1) = _ :=
    behind.stringEndGuarded_eq narrow
  rw [stepString_eq left narrow, stringGuarded, guarded, behind.stringEnd_eq narrow]
  cases found : splitString? quote text with
  | none => exact ⟨_, rfl, rfl, placed⟩
  | some parts =>
      obtain ⟨literal, rest⟩ := parts
      rw [append_of_splitString? found] at behind
      have stop := behind.drop
      refine ⟨_, rfl, ?_, placed.moved stop⟩
      have width : w.lexer.offset + 1 + byteLength literal =
          w.lexer.offset + (w.lexer.offset + 1 + byteLength literal - w.lexer.offset) := by
        omega
      change (w.bumpGuarded (w.lexer.offset + 1 + byteLength literal - w.lexer.offset) >>= _) = _
      rw [width] at stop
      rw [bumpGuarded_eq fits stop.le_size, ← width]
      rfl

theorem code_safe (fits : source.size ≤ maxOffset) (placed : w.lexer.Placed)
    (left : source.LeavesAt w.lexer.offset text) : Safe (w.stepCode d) (w.codeGuarded d) := by
  have peeked : w.lexer.peek? = text.head? := left.charAt?_eq
  have commented := Lexer.startsWith_iff left Marker.commentOpen
  rw [stepCode, peeked, codeGuarded, restGuarded_eq left]
  cases text with
  | nil => exact ⟨_, rfl, rfl, placed⟩
  | cons c rest =>
      simp only [List.head?_cons, closeWidth?_eq left]
      change Safe _ (if ['-', '%', ']'] <+: c :: rest then _ else
        if ['%', ']'] <+: c :: rest then _ else _)
      by_cases trimmed : ['-', '%', ']'] <+: c :: rest
      · rw [if_pos trimmed, if_pos trimmed]
        exact close_safe fits placed (left.drop_marker trimmed)
      rw [if_neg trimmed, if_neg trimmed]
      by_cases closed : ['%', ']'] <+: c :: rest
      · rw [if_pos closed, if_pos closed]
        exact close_safe fits placed (left.drop_marker closed)
      rw [if_neg closed, if_neg closed]
      simp only [commented]
      by_cases opening : Marker.commentOpen <+: c :: rest
      · rw [if_pos opening, if_pos opening]
        exact ⟨_, rfl, rfl, placed⟩
      rw [if_neg opening, if_neg opening]
      by_cases quoted : c = '\x22' ∨ c = '\x27'
      · rw [if_pos quoted, if_pos quoted]
        exact string_safe fits placed left (Outline.utf8Size_of_quote quoted)
      · rw [if_neg quoted, if_neg quoted, moveOver_eq left, bumpCharGuarded_eq fits left]
        exact ⟨_, rfl, rfl, placed.moved left.tail⟩

theorem outside_safe (fits : source.size ≤ maxOffset) (placed : w.lexer.Placed)
    (left : source.LeavesAt w.lexer.offset text) : Safe w.stepOutside w.outsideGuarded := by
  rw [stepOutside, outsideGuarded]
  by_cases ended : w.lexer.isAtEnd = true
  · rw [if_pos ended, if_pos ended]
    exact ⟨_, rfl, rfl, placed⟩
  rw [if_neg ended, if_neg ended]
  have nonempty : text ≠ [] := fun empty => ended ((Lexer.isAtEnd_iff left).mpr empty)
  cases scanned : w.scan .everything with
  | mk token after =>
      have placed := placed_of_scan placed scanned
      cases token with
      | some token => exact ⟨_, rfl, rfl, placed⟩
      | none =>
          have same := offset_eq_of_scan_eq_none scanned
          rw [← same] at left
          simp only [Lexer.startsWith_iff left, restGuarded_eq left]
          change Safe _ (if Marker.directiveOpen <+: text then _ else
            if Marker.commentOpen <+: text then _ else _)
          by_cases marked : Marker.directiveOpen <+: text
          · rw [if_pos marked, if_pos marked]
            exact open_safe fits placed left marked
          rw [if_neg marked, if_neg marked]
          by_cases commented : Marker.commentOpen <+: text
          · rw [if_pos commented, if_pos commented]
            exact ⟨_, rfl, rfl, placed⟩
          rw [if_neg commented, if_neg commented]
          exact rescan_safe placed left nonempty marked

theorem inside_safe (fits : source.size ≤ maxOffset) (placed : w.lexer.Placed)
    (left : source.LeavesAt w.lexer.offset text) : Safe (w.stepInside d) (w.insideGuarded d) := by
  rw [stepInside, insideGuarded]
  cases scanned : w.scan (.only .comment) with
  | mk token after =>
      have placed := placed_of_scan placed scanned
      cases token with
      | some token => exact ⟨_, rfl, rfl, placed⟩
      | none =>
          rw [← offset_eq_of_scan_eq_none scanned] at left
          have skipped := left.skipBlanks_eq
          have parts := List.takeWhile_append_dropWhile (p := isBlank) (l := text)
          have blanks : Trap.difference (byteLength text) (byteLength (text.dropWhile isBlank)) =
              .ok (byteLength (text.takeWhile isBlank)) := by
            have width := congrArg byteLength parts
            rw [byteLength_append] at width
            rw [Trap.difference, if_pos (by omega)]
            exact congrArg Except.ok (by omega)
          have behind := left
          rw [← parts] at behind
          have behind := behind.drop
          simp only [skipped, restGuarded_eq left, moveTo_eq behind.le_size]
          change Safe _ ((Trap.difference _ _).mapError Slip.trap >>= _)
          rw [blanks]
          change Safe _ (after.bumpGuarded _ >>= _)
          rw [bumpGuarded_eq fits behind.le_size]
          exact code_safe fits (placed.moved behind) behind

/-- **Turns meet no guard.** From a character a turn comes to the same with guards and without, and
it leaves the host at a character. -/
theorem step_safe (fits : source.size ≤ maxOffset) (placed : w.lexer.Placed) :
    Safe w.step w.stepGuarded := by
  obtain ⟨text, left⟩ := Source.isBoundary_iff.mp placed.boundary
  rw [step, stepGuarded]
  cases w.pending with
  | none => exact outside_safe fits placed left
  | some d => exact inside_safe fits placed left

/-! ### Whole walks -/

/-- A walk comes to another by a number of turns. -/
inductive Reaches (w : Walk source) : Nat → Walk source → Prop
  | refl : Reaches w 0 w
  | turn {turns : Nat} {before after : Walk source} (reached : Reaches w turns before)
      (taken : before.step = .ok (.next after)) : Reaches w (turns + 1) after

/-- What is known of a walk between two of its turns. -/
structure Steady (w : Walk source) : Prop where
  boundary : source.isBoundary w.lexer.offset = true
  attempts : ∀ calls, (ScriptCall.perform w.lexer.beginAttempt calls).Untrapped
  turn : ∃ turn, w.step = .ok turn ∧ w.stepGuarded = .ok turn ∧
    source.isBoundary turn.walk.lexer.offset = true
  forward : ∀ after, w.step = .ok (.next after) →
    w.lexer.offset < after.lexer.offset ∧ after.lexer.offset ≤ source.size

theorem Reaches.head {first : Walk source} {turns : Nat} (taken : w.step = .ok (.next first))
    (reached : Reaches first turns after) : Reaches w (turns + 1) after := by
  induction reached with
  | refl => exact .turn .refl taken
  | turn _ last ih => exact .turn ih last

theorem placed_of_step {turn : Turn source} (fits : source.size ≤ maxOffset)
    (placed : w.lexer.Placed) (taken : w.step = .ok turn) : turn.walk.lexer.Placed := by
  obtain ⟨other, same, _, kept⟩ := step_safe fits placed
  rw [taken] at same
  cases same
  exact kept

/-- What one turn keeps, any number of turns keep. Each of them takes a byte at least. -/
theorem Reaches.placed {turns : Nat} (fits : source.size ≤ maxOffset) (placed : w.lexer.Placed)
    (reached : Reaches w turns after) :
    after.lexer.Placed ∧ w.lexer.offset + turns ≤ after.lexer.offset := by
  induction reached with
  | refl => exact ⟨placed, Nat.le_refl _⟩
  | turn _ taken ih =>
      have forward := (offset_lt_of_step taken).2
      exact ⟨placed_of_step fits ih.1 taken, by omega⟩

theorem steady_of_placed (fits : source.size ≤ maxOffset) (placed : w.lexer.Placed) :
    w.Steady := by
  obtain ⟨turn, plain, guarded, kept⟩ := step_safe fits placed
  refine ⟨placed.boundary, ?_, ⟨turn, plain, guarded, kept.boundary⟩, ?_⟩
  · intro calls
    exact (Lexer.attempting_perform placed.inBounds calls).inBounds.untrapped fits
  · intro after taken
    exact ⟨(offset_lt_of_step taken).2, (placed_of_step fits placed taken).inBounds.offset_le⟩

/-- A walk takes turns up to one that is its last, and a run comes to what that comes to. -/
theorem exists_last_turn (fits : source.size ≤ maxOffset) (placed : w.lexer.Placed) :
    ∃ turns before turn outcome, Reaches w turns before ∧ before.step = .ok turn ∧
      turn.outcome? = some outcome ∧ w.run = .ok outcome := by
  -- what is left of the source gets less with every turn but the last
  induction remaining : source.size - w.lexer.offset using Nat.strongRecOn generalizing w with
  | _ bound ih =>
      obtain ⟨turn, taken, _, kept⟩ := step_safe fits placed
      have run := run_of_turn taken
      cases turn with
      | finished last => exact ⟨0, w, _, _, .refl, taken, rfl, run⟩
      | failed error last => exact ⟨0, w, _, _, .refl, taken, rfl, run⟩
      | next first =>
          have forward := offset_lt_of_step taken
          obtain ⟨turns, before, turn, outcome, reached, last, ended, later⟩ :=
            ih (source.size - first.lexer.offset) (by omega) kept rfl
          exact ⟨turns + 1, before, turn, outcome, reached.head taken, last, ended,
            run.trans later⟩

end Walk

namespace Source

/-- What is known of the walk over a source from its start to its end. -/
structure SafelyWalked (source : Source) : Prop where
  issues : ∀ issue ∈ source.issues, issue.span.stop ≤ source.size
  /-- What is cut out from a character to the end is all that stands there. -/
  remainder : ∀ offset, source.isBoundary offset = true →
    ∃ front, source.text = front ++ source.slice ⟨offset, source.size⟩ ∧
      byteLength front.toList = offset
  steady : ∀ turns w, (Walk.start source).Reaches turns w → w.Steady ∧ turns ≤ w.lexer.offset
  ended : ∃ turns w turn outcome, (Walk.start source).Reaches turns w ∧ turns ≤ source.size ∧
    w.step = .ok turn ∧ turn.outcome? = some outcome ∧ (Walk.start source).run = .ok outcome
  segmented : ∃ outcome, source.segment = .ok outcome

variable {source : Source}

theorem nullsFrom_stop_le {offset : Nat} :
    ∀ issue ∈ source.nullsFrom offset, issue.span.stop ≤ source.size := by
  fun_induction nullsFrom source offset with
  | case1 offset inside _ ih =>
      intro issue member
      rcases List.mem_cons.mp member with rfl | member
      · exact inside
      · exact ih issue member
  | case2 offset _ _ ih => exact ih
  | case3 => simp

theorem issues_stop_le : ∀ issue ∈ source.issues, issue.span.stop ≤ source.size := by
  intro issue member
  rcases List.mem_append.mp member with mark | null
  · split at mark
    · next marked =>
        rw [List.mem_singleton.mp mark]
        exact three_le_size marked
    · cases mark
  · exact nullsFrom_stop_le issue null

theorem exists_front_of_isBoundary {offset : Nat} (boundary : source.isBoundary offset = true) :
    ∃ front, source.text = front ++ source.slice ⟨offset, source.size⟩ ∧
      byteLength front.toList = offset := by
  obtain ⟨text, left⟩ := isBoundary_iff.mp boundary
  have rest := left.rest_eq
  obtain ⟨front, parts, width⟩ := left
  refine ⟨String.ofList front, ?_, by rwa [String.toList_ofList]⟩
  rw [rest, ← String.ofList_append, ← parts, chars, String.ofList_toList]

theorem placed_start (source : Source) : (Walk.start source).lexer.Placed where
  inBounds :=
    ⟨Nat.zero_le _, Nat.le_refl _, Nat.zero_le _, fun _ impossible => nomatch impossible⟩
  boundary := source.leavesAt_zero.isBoundary

/-- **Walks are safe.** Where the size of a source is an offset, a walk over it is at a character
between any two turns, moves forward in each, slips nowhere, and comes to an end. -/
theorem safelyWalked (fits : source.size ≤ maxOffset) : source.SafelyWalked := by
  refine ⟨issues_stop_le, fun _ => exists_front_of_isBoundary, ?_, ?_,
    ⟨_, source.segment_eq_outline⟩⟩
  · intro turns w reached
    obtain ⟨placed, far⟩ := reached.placed fits (placed_start source)
    exact ⟨Walk.steady_of_placed fits placed, Nat.le_of_add_left_le far⟩
  · obtain ⟨turns, w, turn, outcome, reached, last, ended, run⟩ :=
      Walk.exists_last_turn fits (placed_start source)
    obtain ⟨placed, far⟩ := reached.placed fits (placed_start source)
    have within := placed.inBounds.offset_le
    exact ⟨turns, w, turn, outcome, reached, by omega, last, ended, run⟩

/-- Wide characters in front of a directive, behind an escape sign in a string, and behind the
slash that ends the source. -/
theorem safelyWalked_accent :
    (ofText "é[% '\\é' -%]/é").size ≤ maxOffset ∧ (ofText "é[% '\\é' -%]/é").SafelyWalked := by
  have fits : (ofText "é[% '\\é' -%]/é").size ≤ maxOffset := by decide
  exact ⟨fits, safelyWalked fits⟩

end Source

end TemplateScan
