import TemplateScan.Proofs.Template.Guards

/-! # Quoted strings by an automaton

A reader who goes through a quoted string character by character is in the string, behind a
backslash, or behind the closing quote (`Quoting`). The search by bytes jumps from one quote or
backslash to the next, and over a whole character behind a backslash; it ends where the reader does
(`Walk.passesString`). Between two jumps the reader is in the string, which is why a text is closed
by only one of its quotes (`Quoting.closing_unique`).
-/

namespace TemplateScan

/-- Where a reader of a quoted string is. -/
inductive Quoting where
  /-- In the string: a quote closes it. -/
  | inside
  /-- Behind a backslash: nothing closes the string. -/
  | escaped
  /-- Behind the quote that has closed the string. -/
  | closed
deriving DecidableEq, Repr

namespace Quoting

variable {quote c : Char} {text literal inner after : List Char}

/-- Where a character leads to. -/
def next (quote : Char) : Quoting → Char → Quoting
  | .inside, c => if c = quote then .closed else if c = '\\' then .escaped else .inside
  | .escaped, _ => .inside
  | .closed, _ => .closed

/-- Where a text leads to from behind the opening quote. -/
def behind (quote : Char) (text : List Char) : Quoting :=
  text.foldl (next quote) .inside

theorem foldl_closed (quote : Char) (text : List Char) :
    text.foldl (next quote) .closed = .closed := by
  induction text with
  | nil => rfl
  | cons c text ih => exact ih

theorem behind_cons_escape (different : ¬ '\\' = quote) (escaped : Char) (text : List Char) :
    behind quote ('\\' :: escaped :: text) = behind quote text := by
  rw [behind, List.foldl_cons, List.foldl_cons, next, if_neg different, if_pos rfl]
  rfl

theorem behind_cons_plain (different : ¬ c = quote) (plain : ¬ c = '\\') (text : List Char) :
    behind quote (c :: text) = behind quote text := by
  rw [behind, List.foldl_cons, next, if_neg different, if_neg plain]
  rfl

/-- A quote that is met in the string closes it, whatever stands behind. -/
theorem behind_append_quote (reading : behind quote inner = .inside) (after : List Char) :
    behind quote (inner ++ quote :: after) = .closed := by
  rw [behind, List.foldl_append, ← behind, reading, List.foldl_cons, next, if_pos rfl,
    foldl_closed]

/-- A text is closed by one of its quotes only. -/
theorem closing_unique {inner' after' : List Char} (reading : behind quote inner = .inside)
    (reading' : behind quote inner' = .inside)
    (same : inner ++ quote :: after = inner' ++ quote :: after') :
    inner = inner' ∧ after = after' := by
  -- the reader has left the string behind whichever of the two quotes comes first
  rcases List.append_eq_append_iff.mp same with ⟨more, rfl, rest⟩ | ⟨more, rfl, rest⟩
  · cases more with
    | nil => exact ⟨(List.append_nil inner).symm, (List.cons.inj rest).2⟩
    | cons d more =>
        obtain ⟨rfl, _⟩ := List.cons.inj rest
        rw [behind_append_quote reading] at reading'
        cases reading'
  · cases more with
    | nil => exact ⟨List.append_nil inner', (List.cons.inj rest).2.symm⟩
    | cons d more =>
        obtain ⟨rfl, _⟩ := List.cons.inj rest
        rw [behind_append_quote reading'] at reading
        cases reading

theorem exists_inside_of_splitString? (found : splitString? quote text = some (literal, after)) :
    ∃ inner, literal = inner ++ [quote] ∧ behind quote inner = .inside := by
  fun_induction splitString? quote text generalizing literal with
  | case1 => cases found
  | case2 text =>
      cases found
      exact ⟨[], rfl, rfl⟩
  | case3 => cases found
  | case4 escaped text different ih =>
      obtain ⟨⟨nested, back⟩, split, joined⟩ := Option.map_eq_some_iff.mp found
      cases joined
      obtain ⟨inner, rfl, reading⟩ := ih split
      exact ⟨'\\' :: escaped :: inner, rfl, (behind_cons_escape different escaped inner).trans reading⟩
  | case5 c text different plain ih =>
      obtain ⟨⟨nested, back⟩, split, joined⟩ := Option.map_eq_some_iff.mp found
      cases joined
      obtain ⟨inner, rfl, reading⟩ := ih split
      exact ⟨c :: inner, rfl, (behind_cons_plain different plain inner).trans reading⟩

theorem behind_ne_closed (absent : splitString? quote text = none) :
    behind quote text ≠ .closed := by
  fun_induction splitString? quote text with
  | case1 =>
      intro closed
      cases closed
  | case2 => cases absent
  | case3 different =>
      rw [behind, List.foldl_cons, next, if_neg different, if_pos rfl]
      intro closed
      cases closed
  | case4 escaped text different ih =>
      rw [behind_cons_escape different]
      exact ih (Option.map_eq_none_iff.mp absent)
  | case5 c text different plain ih =>
      rw [behind_cons_plain different plain]
      exact ih (Option.map_eq_none_iff.mp absent)

/-- A text is cut where a reader meets the closing quote. -/
theorem splitString?_eq_some_iff :
    splitString? quote text = some (literal, after) ↔
      ∃ inner, literal = inner ++ [quote] ∧ text = inner ++ quote :: after ∧
        behind quote inner = .inside := by
  constructor
  · intro found
    obtain ⟨inner, rfl, reading⟩ := exists_inside_of_splitString? found
    refine ⟨inner, rfl, ?_, reading⟩
    rw [append_of_splitString? found, List.append_assoc]
    rfl
  · rintro ⟨inner, rfl, rfl, reading⟩
    cases found : splitString? quote (inner ++ quote :: after) with
    | none => exact absurd (behind_append_quote reading after) (behind_ne_closed found)
    | some parts =>
        obtain ⟨other, back⟩ := parts
        obtain ⟨inner', rfl, reading'⟩ := exists_inside_of_splitString? found
        have same := append_of_splitString? found
        rw [List.append_assoc] at same
        obtain ⟨rfl, rfl⟩ := closing_unique reading reading' same
        rfl

theorem behind_eq_closed_iff :
    behind quote text = .closed ↔
      ∃ inner after, text = inner ++ quote :: after ∧ behind quote inner = .inside := by
  constructor
  · intro closed
    cases found : splitString? quote text with
    | none => exact absurd closed (behind_ne_closed found)
    | some parts =>
        obtain ⟨inner, _, parts, reading⟩ := splitString?_eq_some_iff.mp found
        exact ⟨inner, _, parts, reading⟩
  · rintro ⟨inner, after, rfl, reading⟩
    exact behind_append_quote reading after

end Quoting

namespace Walk

variable {source : Source} {w : Walk source} {quote : Char} {text : List Char}

/-- What a walk comes to that steps over the string whose opening quote is in front of its host, with
`text` behind that quote. -/
structure PassesString (w : Walk source) (quote : Char) (text : List Char) : Prop where
  /-- The host goes behind the quote that a reader takes for the closing one, and so to a
  character. It gets there by as many bytes as the string has, too. -/
  closed : ∀ inner after, text = inner ++ quote :: after → Quoting.behind quote inner = .inside →
    let width := byteLength (quote :: inner ++ [quote])
    let moved : Lexer source := { w.lexer with offset := w.lexer.offset + width }
    w.stepString quote.toUInt8 = .ok (.next { w with lexer := moved }) ∧
      source.isBoundary moved.offset = true ∧ source.LeavesAt moved.offset after ∧
      (source.size ≤ maxOffset → w.lexer.bump width = .ok moved)
  /-- Where a reader comes to the end before that, the walk fails and the host stays. -/
  unclosed : Quoting.behind quote text ≠ .closed →
    w.stepString quote.toUInt8 =
      .ok (.failed (.unterminatedString ⟨w.lexer.offset, source.size⟩) w)
  decided : Quoting.behind quote text = .closed ↔
    ∃ inner after, text = inner ++ quote :: after ∧ Quoting.behind quote inner = .inside
  /-- The search by bytes ends, and reads on from characters only. -/
  unslipped : ∃ stop, source.stringEnd quote.toUInt8 (w.lexer.offset + 1) = .ok stop ∧
    source.stringEndGuarded quote.toUInt8 (w.lexer.offset + 1) = .ok stop

theorem leavesAt_behind_string {offset : Nat} {inner after : List Char}
    (left : source.LeavesAt offset (quote :: (inner ++ quote :: after))) :
    source.LeavesAt (offset + byteLength (quote :: inner ++ [quote])) after := by
  have parts : quote :: (inner ++ quote :: after) = quote :: inner ++ [quote] ++ after := by
    rw [List.append_assoc]
    rfl
  rw [parts] at left
  exact left.drop

theorem stepString_of_inside {inner after : List Char} (narrow : quote.utf8Size = 1)
    (left : source.LeavesAt w.lexer.offset (quote :: (inner ++ quote :: after)))
    (reading : Quoting.behind quote inner = .inside) :
    w.stepString quote.toUInt8 = .ok (.next { w with
      lexer.offset := w.lexer.offset + byteLength (quote :: inner ++ [quote]) }) := by
  have found : splitString? quote (inner ++ quote :: after) = some (inner ++ [quote], after) :=
    Quoting.splitString?_eq_some_iff.mpr ⟨inner, rfl, rfl, reading⟩
  have stop : w.lexer.offset + byteLength (quote :: inner ++ [quote]) =
      w.lexer.offset + 1 + byteLength (inner ++ [quote]) := by
    rw [Nat.add_assoc, ← narrow, ← byteLength_cons]
    rfl
  rw [stepString_eq left narrow, found, stop]

theorem stepString_of_not_closed (narrow : quote.utf8Size = 1)
    (left : source.LeavesAt w.lexer.offset (quote :: text))
    (unclosed : Quoting.behind quote text ≠ .closed) :
    w.stepString quote.toUInt8 =
      .ok (.failed (.unterminatedString ⟨w.lexer.offset, source.size⟩) w) := by
  cases found : splitString? quote text with
  | none => rw [stepString_eq left narrow, found, Lexer.spanToEnd]
  | some parts =>
      obtain ⟨inner, _, parts, reading⟩ := Quoting.splitString?_eq_some_iff.mp found
      exact absurd (Quoting.behind_eq_closed_iff.mpr ⟨inner, _, parts, reading⟩) unclosed

/-- **Strings are passed as they are read.** The search by bytes for the end of a quoted string
agrees with a reader who goes through it character by character. -/
theorem passesString (quoted : quote = '\x22' ∨ quote = '\x27')
    (left : source.LeavesAt w.lexer.offset (quote :: text)) : w.PassesString quote text := by
  have narrow := Outline.utf8Size_of_quote quoted
  refine ⟨?_, stepString_of_not_closed narrow left, Quoting.behind_eq_closed_iff, ?_⟩
  · rintro inner after rfl reading width moved
    have past : source.LeavesAt moved.offset after := leavesAt_behind_string left
    refine ⟨stepString_of_inside narrow left reading, past.isBoundary, past, ?_⟩
    intro fits
    have bound : w.lexer.offset + width ≤ source.size := past.le_size
    rw [Lexer.bump, Nat.min_eq_left (Nat.le_trans bound fits), Lexer.setOffset_eq bound]
  · have behind := left.tail
    rw [narrow] at behind
    have searched : source.stringEnd quote.toUInt8 (w.lexer.offset + 1) = _ :=
      behind.stringEnd_eq narrow
    have guarded : source.stringEndGuarded quote.toUInt8 (w.lexer.offset + 1) = _ :=
      behind.stringEndGuarded_eq narrow
    exact ⟨_, searched, guarded.trans (congrArg (Except.mapError Slip.fault) searched)⟩

/-- A string behind a wide character, with its own quote, a wide character and a backslash escaped
in it. -/
theorem passesString_escapes :
    (Source.ofText "é'a\\'\\é\\\\'%]").LeavesAt 2 "'a\\'\\é\\\\'%]".toList ∧
      ({ lexer := { offset := 2 } } : Walk (.ofText "é'a\\'\\é\\\\'%]")).PassesString '\x27'
        "a\\'\\é\\\\'%]".toList ∧
      ({ lexer := { offset := 2 } } : Walk (.ofText "é'a\\'\\é\\\\'%]")).stepString 0x27 =
        .ok (.next { lexer := { offset := 12 } }) := by
  have left : (Source.ofText "é'a\\'\\é\\\\'%]").LeavesAt 2
      ('\x27' :: "a\\'\\é\\\\'%]".toList) := ⟨['é'], by decide, rfl⟩
  have passes : ({ lexer := { offset := 2 } } : Walk (.ofText "é'a\\'\\é\\\\'%]")).PassesString
      '\x27' "a\\'\\é\\\\'%]".toList := passesString (.inr rfl) left
  exact ⟨left, passes, (passes.closed "a\\'\\é\\\\".toList "%]".toList (by decide) (by decide)).1⟩

end Walk

end TemplateScan
