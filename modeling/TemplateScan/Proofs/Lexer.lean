import TemplateScan.Lexer.Progress
import TemplateScan.Proofs.Recognizer
import TemplateScan.Proofs.Source.Characters

/-! # What one attempt at a token comes to

At a character boundary an attempt is decided by the text that is left there. The rules are
`commentAt?`, `contentAt?` and `tokenAt?`, which know of no probe: a comment runs up to the first
star and slash behind its opening, and literal text up to the first opening of a directive.
-/

namespace TemplateScan

/-! ### The rules -/

/-- The comment at the start of a text that stands at an offset. -/
def commentAt? (offset : Nat) (text : List Char) : Option Token :=
  if ['/', '*'] <+: text then
    (firstAt? ['*', '/'] (text.drop 2)).map fun inner =>
      ⟨.comment, ⟨offset, offset + 2 + inner + 2⟩⟩
  else none

/-- The literal text at the start of a text that stands at an offset. -/
def contentAt? (offset : Nat) (text : List Char) : Option Token :=
  if text = [] ∨ ['[', '%'] <+: text then none
  else some ⟨.content, ⟨offset, offset + (firstAt? ['[', '%'] text).getD (byteLength text)⟩⟩

/-- The token of an offered kind at the start of a text that stands at an offset. -/
def tokenAt? (offered : Offered) (offset : Nat) (text : List Char) : Option Token :=
  match offered with
  | ⟨false, false⟩ => none
  | ⟨false, true⟩ =>
      commentAt? (offset + byteLength (text.takeWhile isBlank)) (text.dropWhile isBlank)
  | ⟨true, false⟩ => contentAt? offset text
  | ⟨true, true⟩ =>
      if text.head? = some '/' then commentAt? offset text else contentAt? offset text

theorem commentAt?_of_opening {offset : Nat} {text : List Char} (opening : ['/', '*'] <+: text) :
    commentAt? offset text = (breakAt? ['*', '/'] (text.drop 2)).map fun parts =>
      ⟨.comment, ⟨offset, offset + 2 + byteLength parts.1 + 2⟩⟩ := by
  rw [commentAt?, if_pos opening, firstAt?, Option.map_map]
  rfl

theorem commentAt?_of_no_opening {offset : Nat} {text : List Char}
    (other : ¬ ['/', '*'] <+: text) : commentAt? offset text = none := by
  rw [commentAt?, if_neg other]

theorem contentAt?_of_marked {offset : Nat} {text : List Char} (marked : ['[', '%'] <+: text) :
    contentAt? offset text = none := by
  rw [contentAt?, if_pos (.inr marked)]

theorem contentAt?_of_unmarked {offset : Nat} {text : List Char} (nonempty : text ≠ [])
    (unmarked : ¬ ['[', '%'] <+: text) :
    contentAt? offset text =
      some ⟨.content, ⟨offset, offset + (firstAt? ['[', '%'] text).getD (byteLength text)⟩⟩ := by
  rw [contentAt?, if_neg (not_or.mpr ⟨nonempty, unmarked⟩)]

theorem tokenAt?_everything (offset : Nat) (text : List Char) :
    tokenAt? .everything offset text =
      if text.head? = some '/' then commentAt? offset text else contentAt? offset text :=
  rfl

theorem tokenAt?_of_marked (offset : Nat) {text : List Char} (marked : ['[', '%'] <+: text) :
    tokenAt? .everything offset text = none := by
  obtain ⟨rest, rfl⟩ := marked
  have refused : contentAt? offset (['[', '%'] ++ rest) = none := contentAt?_of_marked ⟨rest, rfl⟩
  exact refused

theorem tokenAt?_of_opening (offset : Nat) {text : List Char} (opening : ['/', '*'] <+: text) :
    tokenAt? .everything offset text = (breakAt? ['*', '/'] (text.drop 2)).map fun parts =>
      ⟨.comment, ⟨offset, offset + 2 + byteLength parts.1 + 2⟩⟩ := by
  rw [← commentAt?_of_opening opening]
  obtain ⟨rest, rfl⟩ := opening
  rfl

theorem contentAt?_of_absent {offset : Nat} {text : List Char} (nonempty : text ≠ [])
    (absent : breakAt? ['[', '%'] text = none) :
    contentAt? offset text = some ⟨.content, ⟨offset, offset + byteLength text⟩⟩ := by
  have unmarked := not_prefix_of_breakAt?_eq_none absent (List.nil_append text).symm
  rw [contentAt?_of_unmarked nonempty unmarked, firstAt?, absent]
  rfl

theorem contentAt?_of_found {offset : Nat} {text before after : List Char}
    (found : breakAt? ['[', '%'] text = some (before, after)) (unmarked : ¬ ['[', '%'] <+: text) :
    contentAt? offset text = some ⟨.content, ⟨offset, offset + byteLength before⟩⟩ := by
  have nonempty : text ≠ [] := by
    rintro rfl
    cases found
  rw [contentAt?_of_unmarked nonempty unmarked, firstAt?, found]
  rfl

namespace Lexer

open ScriptCall (perform perform_cons perform_append)

variable {source : Source}

/-! ### Sources in memory as hosts of a text -/

theorem ahead_congr {l l' : Lexer source} (same : l.probe = l'.probe) :
    Cursor.ahead l = Cursor.ahead l' := by
  fun_induction Cursor.ahead l generalizing l' with
  | case1 l ended =>
      have ended' : Cursor.atEnd l' = true := by
        rw [← ended]
        simp only [Cursor.atEnd, probeAtEnd, same]
      rw [Cursor.ahead_of_atEnd ended']
  | case2 l opened ih =>
      have opened' : Cursor.atEnd l' = false := by
        simpa only [Cursor.atEnd, probeAtEnd, same, Bool.not_eq_true] using opened
      have moved : (Cursor.advance l).probe = (Cursor.advance l').probe := by
        simp only [Cursor.advance, advance, consume, same]
        split
        · rfl
        · exact same
      have seen : Cursor.lookahead l = Cursor.lookahead l' := by
        simp only [Cursor.lookahead, lookahead, probeAtEnd, same]
        rfl
      rw [Cursor.ahead_of_open opened', ih moved, seen]

instance : LawfulCursor (Lexer source) where
  lookahead_of_atEnd l ended := by
    have ended : l.probeAtEnd = true := ended
    simp only [Cursor.lookahead, lookahead, ended, ↓reduceIte]
  atEnd_advance l ended := by
    have ended : source.size ≤ l.probe := by simpa [Cursor.atEnd, probeAtEnd] using ended
    have moved := le_probe_advance l
    simp only [Cursor.atEnd, probeAtEnd, decide_eq_true_eq]
    omega
  ahead_skip l := ahead_congr (probe_skip l)
  ahead_markEnd _ := ahead_congr rfl

variable {l : Lexer source} {c : Char} {text front back : List Char}

theorem consume_eq (l : Lexer source) : ∃ probe, l.consume = { l with probe := probe } := by
  by_cases inside : l.probe < source.size
  · exact ⟨_, by rw [consume, if_pos inside]⟩
  · exact ⟨l.probe, by rw [consume, if_neg inside]⟩

theorem advance_eq (left : source.LeavesAt l.probe (c :: text)) :
    Cursor.advance l = { l with probe := l.probe + c.utf8Size, advanced := true } := by
  simp only [Cursor.advance, advance, consume, left.lt_size, ↓reduceIte, left.widthAt_eq]

theorem skip_eq (left : source.LeavesAt l.probe (c :: text)) (fresh : l.advanced = false) :
    Cursor.skip l =
      { l with probe := l.probe + c.utf8Size, start := l.probe + c.utf8Size } := by
  simp only [Cursor.skip, skip, consume, left.lt_size, ↓reduceIte, left.widthAt_eq, fresh,
    Bool.false_eq_true]

/-- At a boundary the characters ahead of the probe are those left in the source. -/
theorem ahead_eq (left : source.LeavesAt l.probe text) : Cursor.ahead l = text := by
  induction text generalizing l with
  | nil =>
      have ends := left.add_byteLength
      rw [byteLength_nil, Nat.add_zero] at ends
      apply Cursor.ahead_of_atEnd
      simp only [Cursor.atEnd, probeAtEnd, ends, Nat.le_refl, decide_true]
  | cons c text ih =>
      have opened : l.probeAtEnd = false := by
        have := left.lt_size
        simp only [probeAtEnd, decide_eq_false_iff_not]
        omega
      have seen : Cursor.lookahead l = c := by
        simp only [Cursor.lookahead, lookahead, opened, Bool.false_eq_true, ↓reduceIte,
          left.charAt?_eq, List.head?_cons, Option.getD_some]
      have moved : source.LeavesAt (Cursor.advance l).probe text := by
        rw [advance_eq left]
        exact left.tail
      rw [Cursor.ahead_of_open opened, seen, ih moved]

/-! ### What calls leave behind -/

/-- The probe has passed over a text; the host and the start of the token are where they were. -/
structure Passes (l : Lexer source) (text : List Char) (after : Lexer source) : Prop where
  offset : after.offset = l.offset
  start : after.start = l.start
  probe : after.probe = l.probe + byteLength text

theorem Passes.trans {mid after : Lexer source} (first : Passes l front mid)
    (second : Passes mid back after) : Passes l (front ++ back) after where
  offset := second.offset.trans first.offset
  start := second.start.trans first.start
  probe := by rw [second.probe, first.probe, byteLength_append, Nat.add_assoc]

theorem Passes.leavesAt {after : Lexer source} (passed : Passes l front after)
    (left : source.LeavesAt l.probe (front ++ back)) : source.LeavesAt after.probe back := by
  rw [passed.probe]
  exact left.drop

theorem Passes.tail {after : Lexer source} (passed : Passes l [c] after)
    (left : source.LeavesAt l.probe (c :: text)) : source.LeavesAt after.probe text := by
  have whole : source.LeavesAt l.probe ([c] ++ text) := left
  exact passed.leavesAt whole

theorem passes_advance (left : source.LeavesAt l.probe (c :: text)) :
    Passes l [c] (Cursor.advance l) := by
  rw [advance_eq left]
  exact ⟨rfl, rfl, by rw [byteLength_cons, byteLength_nil, Nat.add_zero]⟩

theorem passes_markEnd_advance (left : source.LeavesAt l.probe (c :: text)) :
    Passes l [c] (Cursor.advance (Cursor.markEnd l)) := by
  have unmoved : source.LeavesAt (Cursor.markEnd l).probe (c :: text) := left
  obtain ⟨offset, start, probe⟩ := passes_advance unmoved
  exact ⟨offset, start, probe⟩

theorem passes_advances (left : source.LeavesAt l.probe (front ++ back)) :
    Passes l front (perform l (List.replicate front.length .advance)) := by
  induction front generalizing l with
  | nil => exact ⟨rfl, rfl, rfl⟩
  | cons c front ih =>
      have first := passes_advance left
      exact first.trans (ih (first.tail left))

theorem passes_takeCalls (left : source.LeavesAt l.probe (front ++ back)) :
    Passes l front (perform l (front.flatMap Recognizer.takeCalls)) := by
  induction front generalizing l with
  | nil => exact ⟨rfl, rfl, rfl⟩
  | cons c front ih =>
      rw [List.flatMap_cons, perform_append]
      have first : Passes l [c] (perform l (Recognizer.takeCalls c)) := by
        rw [Recognizer.takeCalls]
        split
        · exact passes_markEnd_advance left
        · exact passes_advance left
      exact first.trans (ih (first.tail left))

theorem perform_skips (left : source.LeavesAt l.probe (front ++ back))
    (fresh : l.advanced = false) (unbegun : l.start = l.probe) :
    perform l (List.replicate front.length .skip) =
      { l with probe := l.probe + byteLength front, start := l.probe + byteLength front } := by
  induction front generalizing l with
  | nil =>
      rw [byteLength_nil, Nat.add_zero]
      cases l
      cases unbegun
      rfl
  | cons c front ih =>
      rw [List.length_cons, List.replicate_succ, perform_cons]
      change perform (Cursor.skip l) _ = _
      have moved := skip_eq left fresh
      have rest : source.LeavesAt (Cursor.skip l).probe (front ++ back) := by
        rw [moved]
        exact left.tail
      have unbegun' : (Cursor.skip l).start = (Cursor.skip l).probe := by rw [moved]
      have fresh' : (Cursor.skip l).advanced = false := by
        rw [moved]
        exact fresh
      rw [ih rest fresh' unbegun', moved, byteLength_cons]
      simp only [Nat.add_assoc]

/-! ### What a script comes to -/

/-- A script comes to a token, or to none: a verdict comes with the start of the token and with its
committed end. -/
def ComesTo (begun : Lexer source) (script : Option TokenKind × List ScriptCall)
    (token? : Option Token) : Prop :=
  ∃ span : Span, token? = script.1.map (⟨·, span⟩) ∧
    (script.1.isSome → (perform begun script.2).start = span.start ∧
      (perform begun script.2).marked = some span.stop ∧ span.start ≤ span.stop)

theorem comesTo_none {begun : Lexer source} {calls : List ScriptCall} :
    ComesTo begun (none, calls) none :=
  ⟨{}, rfl, fun verdict => absurd verdict Bool.false_ne_true⟩

theorem comment_comesTo (left : source.LeavesAt l.probe text) (unbegun : l.start = l.probe) :
    ComesTo l (Recognizer.commentScript text) (commentAt? l.probe text) := by
  rw [Recognizer.commentScript, commentAt?]
  by_cases opening : ['/', '*'] <+: text
  · rw [if_pos opening, if_pos opening]
    obtain ⟨inner, rfl⟩ := opening
    change ComesTo l ((Recognizer.closeScript inner).1, _ ++ (Recognizer.closeScript inner).2)
      (Option.map _ (firstAt? ['*', '/'] inner))
    rw [Recognizer.closeScript, firstAt?]
    cases found : breakAt? ['*', '/'] inner with
    | none => exact comesTo_none
    | some parts =>
        obtain ⟨before, after⟩ := parts
        obtain ⟨rfl, rest, rfl⟩ := append_of_breakAt? found
        have first := passes_markEnd_advance left
        have second := passes_advance (first.tail left)
        have beyond : source.LeavesAt (Cursor.advance (Cursor.advance (Cursor.markEnd l))).probe
            (before ++ ['*', '/'] ++ rest) := by
          rw [List.append_assoc]
          exact second.tail (first.tail left)
        have third := passes_advances beyond
        rw [List.length_append] at third
        obtain ⟨_, start, probe⟩ := (first.trans second).trans third
        have stop : l.probe + byteLength (['/'] ++ ['*'] ++ (before ++ ['*', '/'])) =
            l.probe + 2 + byteLength before + 2 := by
          rw [byteLength_append, byteLength_append before]
          have : byteLength (['/'] ++ ['*']) = 2 := rfl
          have : byteLength ['*', '/'] = 2 := rfl
          omega
        refine ⟨⟨l.probe, l.probe + 2 + byteLength before + 2⟩, rfl, fun _ => ?_⟩
        rw [perform_append, perform_append]
        refine ⟨start.trans unbegun, ?_, Nat.le_add_right_of_le (Nat.le_add_right_of_le
          (Nat.le_add_right _ _))⟩
        rw [← stop, ← probe]
        rfl
  · rw [if_neg opening, if_neg opening]
    exact comesTo_none

theorem content_comesTo (left : source.LeavesAt l.probe text) (unbegun : l.start = l.probe) :
    ComesTo l (Recognizer.contentScript false text) (contentAt? l.probe text) := by
  by_cases empty : text = []
  · subst empty
    exact comesTo_none
  by_cases marked : ['[', '%'] <+: text
  · rw [Recognizer.contentScript, breakAt?_of_marked marked, contentAt?_of_marked marked]
    exact comesTo_none
  rw [Recognizer.contentScript]
  cases found : breakAt? ['[', '%'] text with
  | none =>
      have whole : source.LeavesAt l.probe (text ++ []) := by rwa [List.append_nil]
      obtain ⟨_, start, probe⟩ := passes_takeCalls whole
      rw [contentAt?_of_absent empty found]
      dsimp only
      rw [if_pos (by simpa using empty)]
      refine ⟨⟨l.probe, l.probe + byteLength text⟩, rfl, fun _ => ?_⟩
      rw [perform_append]
      refine ⟨start.trans unbegun, ?_, Nat.le_add_right _ _⟩
      rw [← probe]
      rfl
  | some parts =>
      obtain ⟨before, after⟩ := parts
      have nonempty := ne_nil_of_breakAt? found marked
      rw [contentAt?_of_found found marked]
      obtain ⟨rfl, rest, rfl⟩ := append_of_breakAt? found
      obtain ⟨_, start, probe⟩ := passes_takeCalls left
      have opening := passes_markEnd_advance ((passes_takeCalls left).leavesAt left)
      dsimp only
      rw [if_pos (by simpa using nonempty)]
      refine ⟨⟨l.probe, l.probe + byteLength before⟩, rfl, fun _ => ?_⟩
      rw [perform_append]
      refine ⟨opening.start.trans (start.trans unbegun), ?_, Nat.le_add_right _ _⟩
      rw [← probe]
      exact marked_consume _

theorem ComesTo.after {calls : List ScriptCall} {script : Option TokenKind × List ScriptCall}
    {token? : Option Token} (came : ComesTo (perform l calls) script token?) :
    ComesTo l (script.1, calls ++ script.2) token? := by
  obtain ⟨span, token, kept⟩ := came
  refine ⟨span, token, ?_⟩
  rw [perform_append]
  exact kept

/-- The rules say what an attempt that has not begun a token comes to. -/
theorem script_comesTo {offered : Offered} (left : source.LeavesAt l.probe text)
    (fresh : l.advanced = false) (unbegun : l.start = l.probe) :
    ComesTo l (Recognizer.script offered text) (tokenAt? offered l.probe text) := by
  rcases offered with ⟨_ | _, _ | _⟩
  · exact comesTo_none
  · rw [← List.takeWhile_append_dropWhile (p := isBlank) (l := text)] at left
    have skipped := perform_skips left fresh unbegun
    rw [Recognizer.script, if_pos (show Offered.insideDirective ⟨false, true⟩ = true from rfl),
      tokenAt?]
    apply ComesTo.after
    rw [skipped, Recognizer.tokenScript]
    by_cases slash : (text.dropWhile isBlank).head? = some '/'
    · rw [if_pos ⟨rfl, slash⟩]
      exact comment_comesTo left.drop rfl
    · have other : ¬ ['/', '*'] <+: text.dropWhile isBlank := by
        rintro ⟨rest, parts⟩
        rw [← parts] at slash
        exact slash rfl
      rw [if_neg (fun both => slash both.2), commentAt?_of_no_opening other]
      exact comesTo_none
  · exact content_comesTo left unbegun
  · rw [Recognizer.script, if_neg (show ¬ Offered.insideDirective ⟨true, true⟩ = true by decide),
      Recognizer.tokenScript, tokenAt?]
    by_cases slash : text.head? = some '/'
    · rw [if_pos ⟨rfl, slash⟩, if_pos slash]
      exact comment_comesTo left unbegun
    · rw [if_neg (fun both => slash both.2), if_neg slash]
      exact content_comesTo left unbegun

/-! ### The host's side -/

theorem isAtEnd_iff (left : source.LeavesAt l.offset text) : l.isAtEnd = true ↔ text = [] := by
  have total := left.add_byteLength
  rw [isAtEnd, decide_eq_true_eq]
  constructor
  · intro ended
    apply Classical.byContradiction
    intro nonempty
    have := byteLength_pos nonempty
    omega
  · rintro rfl
    rw [byteLength_nil] at total
    omega

theorem setOffset_eq {offset : Nat} (bound : offset ≤ source.size) :
    l.setOffset offset = .ok { l with offset := offset } := by
  rw [setOffset, if_pos bound]

theorem bumpChar_eq (left : source.LeavesAt l.offset (c :: text)) :
    l.bumpChar = .ok { l with offset := l.offset + c.utf8Size } := by
  have opened : ¬ l.isAtEnd = true := by
    intro ended
    cases (isAtEnd_iff left).mp ended
  rw [bumpChar, if_neg opened, left.widthAt_eq, setOffset_eq left.tail.le_size]

theorem startsWith_iff (left : source.LeavesAt l.offset text) (marker : List Char) :
    l.startsWith marker = true ↔ marker <+: text :=
  left.hasAt_iff marker

theorem spanToEnd_eq (left : source.LeavesAt l.offset text) :
    l.spanToEnd = ⟨l.offset, l.offset + byteLength text⟩ := by
  rw [spanToEnd, left.add_byteLength]

/-! ### Attempts -/

/-- At a boundary an attempt comes to the token of the rules, and moves the host to its end; where
the rules give none, the host stays. -/
theorem scan_of_leavesAt (left : source.LeavesAt l.offset text) (offered : Offered) :
    (l.scan offered).1 = tokenAt? offered l.offset text ∧
      (l.scan offered).2.offset =
        ((tokenAt? offered l.offset text).map fun token => token.span.stop).getD l.offset := by
  have begun : source.LeavesAt l.beginAttempt.probe text := left
  have came : ComesTo l.beginAttempt (Recognizer.script offered text)
      (tokenAt? offered l.offset text) := script_comesTo begun rfl rfl
  obtain ⟨span, token, kept⟩ := came
  rw [token, scan, attempt, Recognizer.scan, Recognizer.recognize_eq_script, ahead_eq begun]
  cases verdict : (Recognizer.script offered text).1 with
  | none =>
      have offset := offset_recognize offered l.beginAttempt
      rw [Recognizer.recognize_eq_script, ahead_eq begun] at offset
      exact ⟨rfl, offset⟩
  | some kind =>
      obtain ⟨start, marked, ordered⟩ := kept (by rw [verdict]; rfl)
      simp only [finish, Cursor.setResult, setResult, marked, start, Option.getD_some,
        Nat.min_eq_left ordered, Option.map_some]
      exact ⟨trivial, trivial⟩

theorem rest_eq (left : source.LeavesAt l.offset text) : l.rest.toList = text := by
  rw [rest, left.rest_eq, String.toList_ofList]

end Lexer

end TemplateScan
