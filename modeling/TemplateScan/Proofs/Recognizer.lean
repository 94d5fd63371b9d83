import TemplateScan.Cursor.Script
import TemplateScan.Proofs.Text

/-! # The calls of the recognizer

A recognizer sees its input one character at a time and decides each move by what it sees. On a
given text the outcome is fixed in advance: `Recognizer.script` gives the verdict and the calls as
functions of the text ahead, by the first places of the closing star and slash and of the opening
of a directive, and the recognizer makes these calls on every host that obeys the laws of
`LawfulCursor` (`Recognizer.recognize_eq_script`). So two hosts that each call keeps together are
together after a whole attempt (`Recognizer.Tandem`).
-/

namespace TemplateScan

variable {σ : Type} [Cursor σ]

namespace ScriptCall

/-- The cursor after all calls in order. -/
def perform (s : σ) (calls : List ScriptCall) : σ :=
  (runAll s calls).2

@[simp] theorem perform_nil (s : σ) : perform s [] = s := rfl

@[simp] theorem perform_cons (s : σ) (call : ScriptCall) (calls : List ScriptCall) :
    perform s (call :: calls) = perform (call.run s).2 calls := rfl

@[simp] theorem perform_append (s : σ) (calls more : List ScriptCall) :
    perform s (calls ++ more) = perform (perform s calls) more := by
  induction calls generalizing s with
  | nil => rfl
  | cons call calls ih => exact ih (call.run s).2

/-- Does a call move the probe by itself? -/
def isMove : ScriptCall → Bool
  | .advance => true
  | .skip => true
  | _ => false

/-- Number of moves among some calls. -/
def moves (calls : List ScriptCall) : Nat :=
  calls.countP isMove

theorem moves_append (calls more : List ScriptCall) :
    moves (calls ++ more) = moves calls + moves more :=
  List.countP_append

theorem moves_replicate {call : ScriptCall} (move : call.isMove = true) (count : Nat) :
    moves (List.replicate count call) = count := by
  rw [moves, List.countP_replicate, if_pos move]

end ScriptCall

namespace Cursor

/-- The characters in front of the probe, up to the end of input. -/
def ahead (s : σ) : List Char :=
  if _hend : atEnd s = true then [] else lookahead s :: ahead (advance s)
termination_by remaining s
decreasing_by exact remaining_advance_lt s (by simpa using _hend)

end Cursor

/-- A host that reads a text: its end of input stays the end, a skip passes over the same character
as an advance does, and committing to an end takes nothing away. -/
class LawfulCursor (σ : Type) [Cursor σ] : Prop where
  lookahead_of_atEnd (s : σ) : Cursor.atEnd s = true → Cursor.lookahead s = endChar
  atEnd_advance (s : σ) : Cursor.atEnd s = true → Cursor.atEnd (Cursor.advance s) = true
  ahead_skip (s : σ) : Cursor.ahead (Cursor.skip s) = Cursor.ahead (Cursor.advance s)
  ahead_markEnd (s : σ) : Cursor.ahead (Cursor.markEnd s) = Cursor.ahead s

namespace Cursor

theorem ahead_of_atEnd {s : σ} (ended : atEnd s = true) : ahead s = [] := by
  rw [ahead, dif_pos ended]

theorem ahead_of_open {s : σ} (opened : atEnd s = false) :
    ahead s = lookahead s :: ahead (advance s) := by
  rw [ahead, dif_neg (by simp [opened])]

variable [LawfulCursor σ]

theorem ahead_advance (s : σ) : ahead (advance s) = (ahead s).tail := by
  cases ended : atEnd s with
  | true =>
      rw [ahead_of_atEnd ended, ahead_of_atEnd (LawfulCursor.atEnd_advance s ended)]
      rfl
  | false => rw [ahead_of_open ended, List.tail_cons]

theorem ahead_skip (s : σ) : ahead (skip s) = (ahead s).tail := by
  rw [LawfulCursor.ahead_skip, ahead_advance]

theorem ahead_markEnd (s : σ) : ahead (markEnd s) = ahead s :=
  LawfulCursor.ahead_markEnd s

/-- A character other than U+0000 is seen exactly where it comes next. -/
theorem lookahead_eq_iff {s : σ} {c : Char} (real : c ≠ endChar) :
    lookahead s = c ↔ (ahead s).head? = some c := by
  cases ended : atEnd s with
  | true =>
      rw [LawfulCursor.lookahead_of_atEnd s ended, ahead_of_atEnd ended]
      constructor
      · intro same
        exact absurd same.symm real
      · intro impossible
        cases impossible
  | false => rw [ahead_of_open ended, List.head?_cons, Option.some.injEq]

end Cursor

namespace Recognizer

open Cursor ScriptCall

/-! ### The calls that a text asks for -/

/-- The verdict and the calls behind the opening of a comment. -/
def closeScript (text : List Char) : Option TokenKind × List ScriptCall :=
  match breakAt? ['*', '/'] text with
  | some (before, _) =>
      (some .comment, List.replicate (before.length + 2) .advance ++ [.markEnd])
  | none => (none, List.replicate text.length .advance)

/-- The verdict and the calls where comments are offered and the text starts with a slash. -/
def commentScript (text : List Char) : Option TokenKind × List ScriptCall :=
  if ['/', '*'] <+: text then
    ((closeScript (text.drop 2)).1,
      [.markEnd, .advance, .advance] ++ (closeScript (text.drop 2)).2)
  else (none, [.markEnd, .advance])

/-- The calls by which a character is taken into literal text: each bracket is a tentative end. -/
def takeCalls (c : Char) : List ScriptCall :=
  if c = '[' then [.markEnd, .advance] else [.advance]

/-- The verdict and the calls for literal text that already holds a character or does not. -/
def contentScript (nonempty : Bool) (text : List Char) : Option TokenKind × List ScriptCall :=
  match breakAt? ['[', '%'] text with
  | some (before, _) =>
      (if nonempty || !before.isEmpty then some .content else none,
        before.flatMap takeCalls ++ [.markEnd, .advance])
  | none =>
      if nonempty || !text.isEmpty then (some .content, text.flatMap takeCalls ++ [.markEnd])
      else (none, [])

/-- The verdict and the calls where the blanks in front of the token have been skipped. -/
def tokenScript (offered : Offered) (text : List Char) : Option TokenKind × List ScriptCall :=
  if offered.comment = true ∧ text.head? = some '/' then commentScript text
  else if offered.content then contentScript false text
  else (none, [])

/-- The verdict of an attempt on a text, and the calls that lead to it. -/
def script (offered : Offered) (text : List Char) : Option TokenKind × List ScriptCall :=
  if offered.insideDirective then
    ((tokenScript offered (text.dropWhile isBlank)).1,
      List.replicate (text.takeWhile isBlank).length .skip ++
        (tokenScript offered (text.dropWhile isBlank)).2)
  else tokenScript offered text

theorem closeScript_cons {c : Char} {text : List Char} (unmarked : ¬ ['*', '/'] <+: c :: text) :
    closeScript (c :: text) = ((closeScript text).1, .advance :: (closeScript text).2) := by
  rw [closeScript, breakAt?_cons_of_unmarked unmarked, closeScript]
  cases breakAt? ['*', '/'] text with
  | none => rfl
  | some parts => rfl

theorem contentScript_cons {nonempty : Bool} {c : Char} {text : List Char}
    (unmarked : ¬ ['[', '%'] <+: c :: text) :
    contentScript nonempty (c :: text) =
      ((contentScript true text).1, takeCalls c ++ (contentScript true text).2) := by
  rw [contentScript, breakAt?_cons_of_unmarked unmarked, contentScript]
  cases breakAt? ['[', '%'] text with
  | none => simp
  | some parts => simp

/-- A call by which a token is run through: its end is committed to, or it takes a character. -/
def IsStride (call : ScriptCall) : Prop :=
  call = .advance ∨ call = .markEnd

theorem closeScript_strides (text : List Char) : ∀ call ∈ (closeScript text).2, IsStride call := by
  intro call member
  rw [closeScript] at member
  cases found : breakAt? ['*', '/'] text with
  | none =>
      rw [found] at member
      exact .inl (List.eq_of_mem_replicate member)
  | some parts =>
      rw [found] at member
      rcases List.mem_append.mp member with advance | mark
      · exact .inl (List.eq_of_mem_replicate advance)
      · exact .inr (List.mem_singleton.mp mark)

theorem commentScript_strides (text : List Char) :
    ∀ call ∈ (commentScript text).2, IsStride call := by
  intro call member
  rw [commentScript] at member
  by_cases opening : ['/', '*'] <+: text
  · rw [if_pos opening] at member
    rcases List.mem_append.mp member with first | later
    · simp only [List.mem_cons, List.not_mem_nil, or_false] at first
      rcases first with rfl | rfl | rfl
      · exact .inr rfl
      · exact .inl rfl
      · exact .inl rfl
    · exact closeScript_strides _ call later
  · rw [if_neg opening] at member
    simp only [List.mem_cons, List.not_mem_nil, or_false] at member
    rcases member with rfl | rfl
    · exact .inr rfl
    · exact .inl rfl

theorem takeCalls_strides (text : List Char) :
    ∀ call ∈ text.flatMap takeCalls, IsStride call := by
  intro call member
  obtain ⟨c, _, taken⟩ := List.mem_flatMap.mp member
  rw [takeCalls] at taken
  by_cases bracket : c = '['
  · rw [if_pos bracket] at taken
    simp only [List.mem_cons, List.not_mem_nil, or_false] at taken
    exact taken.symm
  · rw [if_neg bracket] at taken
    exact .inl (List.mem_singleton.mp taken)

theorem contentScript_strides (text : List Char) :
    ∀ call ∈ (contentScript false text).2, IsStride call := by
  intro call member
  rw [contentScript] at member
  cases found : breakAt? ['[', '%'] text with
  | none =>
      rw [found] at member
      cases text with
      | nil => cases member
      | cons c text =>
          rcases List.mem_append.mp member with taken | mark
          · exact takeCalls_strides _ call taken
          · exact .inr (List.mem_singleton.mp mark)
  | some parts =>
      rw [found] at member
      rcases List.mem_append.mp member with taken | last
      · exact takeCalls_strides _ call taken
      · simp only [List.mem_cons, List.not_mem_nil, or_false] at last
        exact last.symm

theorem tokenScript_strides (offered : Offered) (text : List Char) :
    ∀ call ∈ (tokenScript offered text).2, IsStride call := by
  rw [tokenScript]
  by_cases slash : offered.comment = true ∧ text.head? = some '/'
  · rw [if_pos slash]
    exact commentScript_strides text
  rw [if_neg slash]
  cases offered.content with
  | true => exact contentScript_strides text
  | false =>
      intro call member
      cases member

/-- Blanks are skipped in front of the token only. -/
theorem script_calls (offered : Offered) (text : List Char) :
    ∃ blanks strides, (script offered text).2 = List.replicate blanks .skip ++ strides ∧
      ∀ call ∈ strides, IsStride call := by
  rw [script]
  cases offered.insideDirective with
  | true => exact ⟨_, _, rfl, tokenScript_strides offered _⟩
  | false => exact ⟨0, _, rfl, tokenScript_strides offered _⟩

theorem script_moves (offered : Offered) (text : List Char) :
    ∀ call ∈ (script offered text).2, call = .skip ∨ IsStride call := by
  obtain ⟨blanks, strides, calls, stride⟩ := script_calls offered text
  intro call member
  rw [calls] at member
  rcases List.mem_append.mp member with skip | later
  · exact .inl (List.eq_of_mem_replicate skip)
  · exact .inr (stride call later)

/-! ### What the calls of a script keep -/

/-- What each call of a script keeps holds after all of them. -/
theorem perform_kept {I : σ → Prop} (skip : ∀ s, I s → I (Cursor.skip s))
    (advance : ∀ s, I s → I (Cursor.advance s)) (markEnd : ∀ s, I s → I (Cursor.markEnd s))
    {calls : List ScriptCall} (own : ∀ call ∈ calls, call = .skip ∨ IsStride call) {s : σ}
    (holds : I s) : I (perform s calls) := by
  induction calls generalizing s with
  | nil => exact holds
  | cons call calls ih =>
      apply ih fun other member => own other (List.mem_cons_of_mem call member)
      rcases own call List.mem_cons_self with rfl | rfl | rfl
      · exact skip s holds
      · exact advance s holds
      · exact markEnd s holds

/-- Relations of two cursors that the calls of a script keep, `fresh` in front of the token and
`begun` in it. The number is that of the moves to come. -/
structure Tandem {τ : Type} [Cursor τ] (fresh begun : Nat → σ → τ → Prop) : Prop where
  skip : ∀ {count s t}, fresh (count + 1) s t → fresh count (Cursor.skip s) (Cursor.skip t)
  begins : ∀ {count s t}, fresh count s t → begun count s t
  advance : ∀ {count s t}, begun (count + 1) s t →
    begun count (Cursor.advance s) (Cursor.advance t)
  markEnd : ∀ {count s t}, begun count s t →
    begun count (Cursor.markEnd s) (Cursor.markEnd t)

namespace Tandem

variable {τ : Type} [Cursor τ] {fresh begun : Nat → σ → τ → Prop} {s : σ} {t : τ}

theorem perform_skips (tandem : Tandem fresh begun) {count blanks : Nat}
    (holds : fresh (blanks + count) s t) :
    fresh count (perform s (List.replicate blanks .skip))
      (perform t (List.replicate blanks .skip)) := by
  induction blanks generalizing s t with
  | zero =>
      rw [Nat.zero_add] at holds
      exact holds
  | succ blanks ih =>
      rw [Nat.add_right_comm] at holds
      exact ih (tandem.skip holds)

theorem perform_strides (tandem : Tandem fresh begun) {calls : List ScriptCall}
    (strides : ∀ call ∈ calls, IsStride call) (holds : begun (moves calls) s t) :
    begun 0 (perform s calls) (perform t calls) := by
  induction calls generalizing s t with
  | nil => exact holds
  | cons call calls ih =>
      have later : ∀ call ∈ calls, IsStride call := fun other member =>
        strides other (List.mem_cons_of_mem call member)
      rcases strides call List.mem_cons_self with rfl | rfl
      · have count : moves (.advance :: calls) = moves calls + 1 := List.countP_cons_of_pos rfl
        rw [count] at holds
        exact ih later (tandem.advance holds)
      · exact ih later (tandem.markEnd holds)

/-- Two cursors that are related in front of a token stay so through a whole script. -/
theorem perform_script (tandem : Tandem fresh begun) (offered : Offered) (text : List Char)
    (holds : fresh (moves (script offered text).2) s t) :
    begun 0 (perform s (script offered text).2) (perform t (script offered text).2) := by
  obtain ⟨blanks, strides, calls, strided⟩ := script_calls offered text
  rw [calls, moves_append, moves_replicate rfl] at holds
  rw [calls, perform_append, perform_append]
  exact tandem.perform_strides strided (tandem.begins (tandem.perform_skips holds))

end Tandem

/-! ### The recognizer follows its script -/

variable [LawfulCursor σ]

theorem skipBlanks_eq_perform (s : σ) :
    skipBlanks s =
      perform s (List.replicate ((ahead s).takeWhile isBlank).length .skip) := by
  fun_induction skipBlanks s with
  | case1 s blank ih =>
      rw [ih, ahead_skip, ahead_of_open blank.1, List.takeWhile_cons_of_pos blank.2,
        List.tail_cons]
      rfl
  | case2 s other =>
      cases ended : atEnd s with
      | true =>
          rw [ahead_of_atEnd ended]
          rfl
      | false =>
          rw [ahead_of_open ended,
            List.takeWhile_cons_of_neg (fun blank => other ⟨ended, blank⟩)]
          rfl

theorem ahead_skipBlanks (s : σ) : ahead (skipBlanks s) = (ahead s).dropWhile isBlank := by
  fun_induction skipBlanks s with
  | case1 s blank ih =>
      rw [ih, ahead_skip, ahead_of_open blank.1, List.dropWhile_cons_of_pos blank.2,
        List.tail_cons]
  | case2 s other =>
      cases ended : atEnd s with
      | true =>
          rw [ahead_of_atEnd ended]
          rfl
      | false =>
          rw [ahead_of_open ended,
            List.dropWhile_cons_of_neg (fun blank => other ⟨ended, blank⟩)]

theorem closeComment_eq_script (s : σ) :
    closeComment s = ((closeScript (ahead s)).1, perform s (closeScript (ahead s)).2) := by
  fun_induction closeComment s with
  | case1 s ended =>
      rw [ahead_of_atEnd ended]
      rfl
  | case2 s opened star bracket closing =>
      have opened : atEnd s = false := by simpa using opened
      have follows := (lookahead_eq_iff (by decide)).mp closing
      have marked : ['*', '/'] <+: '*' :: ahead (advance s) :=
        pair_isPrefix_cons_iff.mpr ⟨rfl, follows⟩
      rw [ahead_of_open opened, star, closeScript, breakAt?_cons_of_marked marked]
      rfl
  | case3 s opened star bracket closing ih =>
      have opened : atEnd s = false := by simpa using opened
      have unmarked : ¬ ['*', '/'] <+: '*' :: ahead (advance s) := by
        intro marked
        exact closing ((lookahead_eq_iff (by decide)).mpr (pair_isPrefix_cons_iff.mp marked).2)
      rw [ih, ahead_of_open opened, star, closeScript_cons unmarked]
      rfl
  | case4 s opened star ih =>
      have opened : atEnd s = false := by simpa using opened
      have unmarked : ¬ ['*', '/'] <+: lookahead s :: ahead (advance s) := by
        intro marked
        exact star (pair_isPrefix_cons_iff.mp marked).1
      rw [ih, ahead_of_open opened, closeScript_cons unmarked]
      rfl

theorem content_eq_script (nonempty : Bool) (s : σ) :
    content nonempty s =
      ((contentScript nonempty (ahead s)).1, perform s (contentScript nonempty (ahead s)).2) := by
  fun_induction content nonempty s with
  | case1 s ended =>
      rw [ahead_of_atEnd ended]
      rfl
  | case2 nonempty s ended empty =>
      have empty : nonempty = false := by simpa using empty
      rw [ahead_of_atEnd ended, empty]
      rfl
  | case3 nonempty s opened bracket after percent =>
      have opened : atEnd s = false := by simpa using opened
      have follows := (lookahead_eq_iff (by decide)).mp percent
      rw [ahead_advance, ahead_markEnd, ahead_of_open opened, List.tail_cons] at follows
      have marked : ['[', '%'] <+: '[' :: ahead (advance s) :=
        pair_isPrefix_cons_iff.mpr ⟨rfl, follows⟩
      rw [ahead_of_open opened, bracket, contentScript, breakAt?_cons_of_marked marked]
      simp [after, run]
  | case4 nonempty s opened bracket after percent ih =>
      have opened : atEnd s = false := by simpa using opened
      have tail : ahead after = ahead (advance s) := by
        rw [ahead_advance, ahead_markEnd, ← ahead_advance]
      have unmarked : ¬ ['[', '%'] <+: '[' :: ahead (advance s) := by
        intro marked
        rw [← tail] at marked
        exact percent ((lookahead_eq_iff (by decide)).mpr (pair_isPrefix_cons_iff.mp marked).2)
      rw [ih, ahead_of_open opened, bracket, contentScript_cons unmarked, tail]
      rfl
  | case5 nonempty s opened bracket ih =>
      have opened : atEnd s = false := by simpa using opened
      have unmarked : ¬ ['[', '%'] <+: lookahead s :: ahead (advance s) := by
        intro marked
        exact bracket (pair_isPrefix_cons_iff.mp marked).1
      rw [ih, ahead_of_open opened, contentScript_cons unmarked, takeCalls, if_neg bracket]
      rfl

theorem comment_eq_script {s : σ} (slash : (ahead s).head? = some '/') :
    comment s = ((commentScript (ahead s)).1, perform s (commentScript (ahead s)).2) := by
  obtain ⟨text, parts⟩ := List.head?_eq_some_iff.mp slash
  have behind : ahead (advance (markEnd s)) = text := by
    rw [ahead_advance, ahead_markEnd, parts, List.tail_cons]
  rw [parts, commentScript, List.drop_succ_cons, List.drop_one]
  unfold comment
  dsimp only
  by_cases star : text.head? = some '*'
  · have seen : lookahead (advance (markEnd s)) = '*' := by
      rw [lookahead_eq_iff (by decide), behind]
      exact star
    rw [if_pos seen, if_pos (pair_isPrefix_cons_iff.mpr ⟨rfl, star⟩), closeComment_eq_script,
      ahead_advance, behind]
    rfl
  · have unseen : ¬ lookahead (advance (markEnd s)) = '*' := by
      rw [lookahead_eq_iff (by decide), behind]
      exact star
    rw [if_neg unseen, if_neg (fun opening => star (pair_isPrefix_cons_iff.mp opening).2)]
    rfl

/-- On every lawful host, the text ahead alone fixes the verdict and the calls of an attempt. -/
theorem recognize_eq_script (offered : Offered) (s : σ) :
    recognize offered s =
      ((script offered (ahead s)).1, perform s (script offered (ahead s)).2) := by
  have token : ∀ s : σ, (if offered.comment = true ∧ lookahead s = '/' then comment s
      else if offered.content = true then content false s else (none, s)) =
      ((tokenScript offered (ahead s)).1, perform s (tokenScript offered (ahead s)).2) := by
    intro s
    simp only [lookahead_eq_iff (show '/' ≠ endChar by decide), tokenScript]
    by_cases slash : offered.comment = true ∧ (ahead s).head? = some '/'
    · rw [if_pos slash, if_pos slash, comment_eq_script slash.2]
    · rw [if_neg slash, if_neg slash]
      cases offered.content with
      | true => exact content_eq_script false s
      | false => rfl
  unfold recognize script
  dsimp only
  rw [token]
  cases offered.insideDirective with
  | false => rfl
  | true =>
      rw [if_pos rfl, if_pos rfl, ahead_skipBlanks, skipBlanks_eq_perform, perform_append]

end Recognizer

end TemplateScan
