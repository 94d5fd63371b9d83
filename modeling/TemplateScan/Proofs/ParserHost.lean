import TemplateScan.Plugin
import TemplateScan.Proofs.Lexer

/-! # Parsers and sources in memory stay in step

A parser counts characters and a source in memory counts bytes, and they differ in where a token
starts after a skip. Both obey the laws of a host, so on one text the recognizer makes the same
calls on them (`Recognizer.recognize_eq_script`). Each call keeps their places together
(`Paired`), an attempt comes to the same token on both, and so a run of any operations leaves them
at the same place of the text after every one (`hosts_stay_in_step`).
-/

namespace TemplateScan

open Recognizer (IsStride script)
open ScriptCall (perform)

namespace ParserHost

variable {p : ParserHost}

/-! ### Parsers as hosts of a text -/

theorem atEnd_iff : p.atEnd = true ↔ p.codes.size ≤ p.probe := by
  rw [atEnd, decide_eq_true_eq]

theorem move_of_lt (inside : p.probe < p.codes.size) :
    p.move = { p with probe := p.probe + 1 } := by
  have opened : ¬ p.atEnd = true := by
    rw [atEnd_iff]
    omega
  rw [move, if_neg opened]

theorem move_of_le (ended : p.codes.size ≤ p.probe) : p.move = p := by
  rw [move, if_pos (atEnd_iff.mpr ended)]

theorem ahead_eq (p : ParserHost) :
    Cursor.ahead p = (p.codes.toList.drop p.probe).map charOfCode := by
  fun_induction Cursor.ahead p with
  | case1 p ended =>
      have ended : p.codes.toList.length ≤ p.probe := atEnd_iff.mp ended
      rw [List.drop_eq_nil_of_le ended]
      rfl
  | case2 p opened ih =>
      have inside : p.probe < p.codes.size := by
        apply Nat.not_le.mp
        intro ended
        exact opened (atEnd_iff.mpr ended)
      have seen : Cursor.lookahead p = charOfCode p.codes[p.probe] := by
        simp only [Cursor.lookahead, code, Array.getElem?_eq_getElem inside, Option.getD_some]
      have behind : Cursor.advance p =
          { p with probe := p.probe + 1, calls := p.calls.push .advance } := by
        simp only [Cursor.advance, advance, move_of_lt inside]
      rw [ih, behind, seen, List.drop_eq_getElem_cons (i := p.probe) (l := p.codes.toList) inside]
      rfl

instance : LawfulCursor ParserHost where
  lookahead_of_atEnd p ended := by
    have ended : p.codes.size ≤ p.probe := atEnd_iff.mp ended
    simp only [Cursor.lookahead, code, Array.getElem?_eq_none ended, Option.getD_none]
    rfl
  atEnd_advance p ended := by
    have stays : p.move = p := move_of_le (atEnd_iff.mp ended)
    simp only [Cursor.advance, advance, stays]
    exact ended
  ahead_skip p := by
    rw [ahead_eq, ahead_eq]
    rfl
  ahead_markEnd p := by
    rw [ahead_eq, ahead_eq]
    rfl

theorem move_eq (p : ParserHost) : ∃ probe, p.move = { p with probe := probe } := by
  by_cases inside : p.probe < p.codes.size
  · exact ⟨_, move_of_lt inside⟩
  · exact ⟨_, move_of_le (Nat.not_lt.mp inside)⟩

/-- The calls of an attempt change neither the input nor the parser's own place, and leave the
slot alone. -/
theorem perform_frame {calls : List ScriptCall}
    (moves : ∀ call ∈ calls, call = .skip ∨ IsStride call) :
    (perform p calls).codes = p.codes ∧ (perform p calls).host = p.host ∧
      (perform p calls).symbol = p.symbol := by
  refine Recognizer.perform_kept
    (I := fun q : ParserHost => q.codes = p.codes ∧ q.host = p.host ∧ q.symbol = p.symbol)
    ?skip ?advance (fun _ framed => framed) moves ⟨rfl, rfl, rfl⟩
  case skip =>
    intro q framed
    obtain ⟨probe, moved⟩ := move_eq q
    simp only [Cursor.skip, skip, moved]
    exact framed
  case advance =>
    intro q framed
    obtain ⟨probe, moved⟩ := move_eq q
    simp only [Cursor.advance, advance, moved]
    exact framed

/-- A refused attempt leaves the slot alone, whatever it holds. -/
theorem symbol_of_refused (flags : List Bool)
    (refused : (Plugin.scan (some p) (some flags)).1 = false) :
    (Plugin.scan (some p) (some flags)).2.map symbol = some p.symbol := by
  have frame := perform_frame (p := p)
    (Recognizer.script_moves (.ofFlags (flags.take TokenKind.all.length)) (Cursor.ahead p))
  rw [Plugin.scan, Recognizer.scan, Recognizer.recognize_eq_script] at refused ⊢
  cases verdict : (script (.ofFlags (flags.take TokenKind.all.length)) (Cursor.ahead p)).1 with
  | some kind =>
      rw [verdict] at refused
      cases refused
  | none => exact congrArg some frame.2.2

end ParserHost

/-! ### Places of one text -/

namespace Source

/-- An index into the characters of a source and an offset into its bytes that are one place. -/
def Marks (source : Source) (index offset : Nat) : Prop :=
  index ≤ source.chars.length ∧ offset = byteLength (source.chars.take index)

variable {source : Source} {index offset : Nat} {c : Char} {text : List Char}

theorem marks_zero (source : Source) : source.Marks 0 0 :=
  ⟨Nat.zero_le _, rfl⟩

theorem Marks.leavesAt (marks : source.Marks index offset) :
    source.LeavesAt offset (source.chars.drop index) :=
  ⟨_, (List.take_append_drop index source.chars).symm, marks.2.symm⟩

theorem Marks.succ (marks : source.Marks index offset)
    (next : source.chars.drop index = c :: text) :
    source.Marks (index + 1) (offset + c.utf8Size) := by
  obtain ⟨_, rfl⟩ := marks
  constructor
  · have left := congrArg List.length next
    rw [List.length_drop, List.length_cons] at left
    omega
  · rw [List.take_add_one, ← List.head?_drop, next, byteLength_append]
    rfl

end Source

theorem ParserHost.size_ofText (source : Source) :
    (ofText source.text).codes.size = source.chars.length := by
  rw [ofText, List.size_toArray, List.length_map]
  rfl

theorem exists_of_rel_some {α β : Type} {r : α → β → Prop} {left : Option α} {b : β}
    (related : Option.Rel r left (some b)) : ∃ a, left = some a ∧ r a b := by
  cases related with
  | some here => exact ⟨_, rfl, here⟩

theorem charOfCode_toNat (c : Char) : charOfCode (c.toNat : Int) = c := by
  have valid : c.toNat.isValidChar := c.valid
  rw [charOfCode, if_pos ⟨Int.natCast_nonneg _, valid⟩]
  exact Char.ofNat_toNat c

/-- A parser and a source in memory in the course of one attempt at one text. -/
structure Paired {source : Source} (p : ParserHost) (l : Lexer source) : Prop where
  codes : p.codes = (ParserHost.ofText source.text).codes
  probe : source.Marks p.probe l.probe
  start : source.Marks p.start l.start
  marked : Option.Rel source.Marks p.marked l.marked

namespace Paired

variable {source : Source} {p : ParserHost} {l : Lexer source} {calls : List ScriptCall}

theorem ahead_eq (paired : Paired p l) : Cursor.ahead p = source.chars.drop p.probe := by
  rw [ParserHost.ahead_eq, paired.codes, ParserHost.ofText, List.map_drop, List.map_map]
  congr 1
  exact List.map_id'' charOfCode_toNat source.chars

theorem size_codes (paired : Paired p l) : p.codes.size = source.chars.length := by
  rw [paired.codes, ParserHost.size_ofText]

/-- Moving the probes keeps them at one place. -/
theorem move (paired : Paired p l) : source.Marks p.move.probe l.consume.probe := by
  have left := paired.probe.leavesAt
  cases next : source.chars.drop p.probe with
  | nil =>
      have ended := List.drop_eq_nil_iff.mp next
      rw [next] at left
      have size := left.add_byteLength
      rw [byteLength_nil, Nat.add_zero] at size
      rw [← paired.size_codes] at ended
      rw [ParserHost.move_of_le ended, Lexer.consume, if_neg (by omega)]
      exact paired.probe
  | cons c text =>
      rw [next] at left
      have inside : p.probe < p.codes.size := by
        rw [paired.size_codes]
        exact (paired.probe.succ next).1
      rw [ParserHost.move_of_lt inside, Lexer.consume, if_pos left.lt_size, left.widthAt_eq]
      exact paired.probe.succ next

theorem advance (paired : Paired p l) : Paired (Cursor.advance p) (Cursor.advance l) := by
  have probe := paired.move
  obtain ⟨index, moved⟩ := ParserHost.move_eq p
  obtain ⟨offset, consumed⟩ := Lexer.consume_eq l
  simp only [Cursor.advance, ParserHost.advance, Lexer.advance]
  rw [moved, consumed] at probe ⊢
  exact ⟨paired.codes, probe, paired.start, paired.marked⟩

theorem markEnd (paired : Paired p l) : Paired (Cursor.markEnd p) (Cursor.markEnd l) where
  codes := paired.codes
  probe := paired.probe
  start := paired.start
  marked := .some paired.probe

/-- The hosts differ in what a skip does to a token that has begun. -/
theorem skip (paired : Paired p l) (fresh : l.advanced = false) :
    Paired (Cursor.skip p) (Cursor.skip l) ∧ (Cursor.skip l).advanced = false := by
  have probe := paired.move
  obtain ⟨index, moved⟩ := ParserHost.move_eq p
  obtain ⟨offset, consumed⟩ := Lexer.consume_eq l
  simp only [Cursor.skip, ParserHost.skip, Lexer.skip]
  rw [moved, consumed] at probe ⊢
  rw [if_neg (by rw [fresh]; exact Bool.false_ne_true)]
  exact ⟨⟨paired.codes, probe, probe, paired.marked⟩, fresh⟩

theorem tandem : Recognizer.Tandem
    (fun _ (p : ParserHost) (l : Lexer source) => Paired p l ∧ l.advanced = false)
    (fun _ p l => Paired p l) where
  skip := fun ⟨paired, fresh⟩ => paired.skip fresh
  begins := And.left
  advance := advance
  markEnd := markEnd

theorem perform_script (paired : Paired p l) (fresh : l.advanced = false) (offered : Offered)
    (text : List Char) :
    Paired (perform p (script offered text).2) (perform l (script offered text).2) :=
  tandem.perform_script offered text ⟨paired, fresh⟩

end Paired

/-! ### Runs of both hosts -/

/-- One flag for each kind in the order of the symbols. -/
def Offered.flags (offered : Offered) : List Bool :=
  [offered.content, offered.comment]

theorem Offered.ofFlags_flags (offered : Offered) :
    ofFlags (offered.flags.take TokenKind.all.length) = offered := by
  rcases offered with ⟨_ | _, _ | _⟩ <;> rfl

theorem ParserHost.attempt_eq (p : ParserHost) (offered : Offered) :
    p.attempt true (some offered.flags) =
      match (script offered (Cursor.ahead p.beginAttempt)).1 with
      | none => (false, perform p.beginAttempt (script offered (Cursor.ahead p.beginAttempt)).2)
      | some kind => (true, ((perform p.beginAttempt
          (script offered (Cursor.ahead p.beginAttempt)).2).setResult kind).settle) := by
  simp only [attempt, Plugin.scan, Offered.ofFlags_flags, Recognizer.scan,
    Recognizer.recognize_eq_script, ↓reduceIte]
  cases (script offered (Cursor.ahead p.beginAttempt)).1 with
  | none => rfl
  | some kind => rfl

/-- The same outcome of an attempt on both hosts. On acceptance the slot has the symbol of the kind
and the token is in the same place; on refusal the slot is as it was when the attempt began. -/
def SameOutcome (source : Source) (begun : ParserHost) (parser : Bool × ParserHost) :
    Option Token → Prop
  | none => parser.1 = false ∧ parser.2.symbol = begun.symbol
  | some token =>
      parser.1 = true ∧ parser.2.symbol = token.kind.symbol ∧
        source.Marks parser.2.start token.span.start ∧
        ∃ marked, parser.2.marked = some marked ∧ source.Marks marked token.span.stop

/-- A parser and a source in memory that have consumed one text up to the same place. -/
structure Abreast {source : Source} (p : ParserHost) (l : Lexer source) : Prop where
  codes : p.codes = (ParserHost.ofText source.text).codes
  place : source.Marks p.host l.offset

namespace Abreast

variable {source : Source} {p : ParserHost} {l : Lexer source}

theorem scan (abreast : Abreast p l) (offered : Offered) :
    SameOutcome source p.beginAttempt (p.attempt true (some offered.flags)) (l.scan offered).1 ∧
      Abreast (p.attempt true (some offered.flags)).2 (l.scan offered).2 := by
  have begun : Paired p.beginAttempt l.beginAttempt :=
    ⟨abreast.codes, abreast.place, abreast.place, .none⟩
  have left := abreast.place.leavesAt
  obtain ⟨found, offset⟩ := Lexer.scan_of_leavesAt left offered
  have came : Lexer.ComesTo l.beginAttempt (script offered (source.chars.drop p.host))
      (tokenAt? offered l.offset (source.chars.drop p.host)) :=
    Lexer.script_comesTo left rfl rfl
  obtain ⟨span, token, kept⟩ := came
  have after := begun.perform_script rfl offered (source.chars.drop p.host)
  have frame := ParserHost.perform_frame (p := p.beginAttempt)
    (Recognizer.script_moves offered (source.chars.drop p.host))
  have ahead : Cursor.ahead p.beginAttempt = source.chars.drop p.host := begun.ahead_eq
  have outcome := p.attempt_eq offered
  rw [ahead] at outcome
  rw [token] at found offset
  cases verdict : (script offered (source.chars.drop p.host)).1 with
  | none =>
      rw [verdict] at found offset outcome
      rw [found, outcome]
      refine ⟨⟨rfl, frame.2.2⟩, after.codes, ?_⟩
      rw [offset, frame.2.1]
      exact abreast.place
  | some kind =>
      rw [verdict] at found offset outcome kept
      obtain ⟨start, marked, _⟩ := kept rfl
      have starts := after.start
      have stops := after.marked
      rw [start] at starts
      rw [marked] at stops
      obtain ⟨index, committed, stop⟩ := exists_of_rel_some stops
      rw [found, outcome]
      refine ⟨⟨rfl, rfl, starts, index, committed, stop⟩, after.codes, ?_⟩
      rw [offset]
      change source.Marks ((perform p.beginAttempt _).marked.getD _) span.stop
      rw [committed]
      exact stop

theorem pass (abreast : Abreast p l) :
    ∃ moved, l.bumpChar = .ok moved ∧ Abreast p.step moved := by
  have left := abreast.place.leavesAt
  have size : p.codes.size = source.chars.length := by
    rw [abreast.codes, ParserHost.size_ofText]
  cases next : source.chars.drop p.host with
  | nil =>
      rw [next] at left
      have ended : ¬ p.host < p.codes.size := by
        rw [size]
        exact Nat.not_lt.mpr (List.drop_eq_nil_iff.mp next)
      refine ⟨l, ?_, ?_⟩
      · rw [Lexer.bumpChar, if_pos ((Lexer.isAtEnd_iff left).mpr rfl)]
      · rw [ParserHost.step, if_neg ended]
        exact abreast
  | cons c text =>
      rw [next] at left
      have place := abreast.place.succ next
      have inside : p.host < p.codes.size := by
        rw [size]
        exact place.1
      refine ⟨_, Lexer.bumpChar_eq left, ?_⟩
      rw [ParserHost.step, if_pos inside]
      exact ⟨abreast.codes, place⟩

end Abreast

/-- An operation of a host. -/
inductive HostStep where
  /-- An attempt at a token of an offered kind. -/
  | scan (offered : Offered)
  /-- A step over one character. -/
  | pass
deriving DecidableEq, Repr

/-- After each of some operations that both hosts run, they have come to the same place and, where
it was an attempt, to the same outcome. -/
def StayInStep {source : Source} : ParserHost → Lexer source → List HostStep → Prop
  | _, _, [] => True
  | p, l, .scan offered :: steps =>
      let parser := p.attempt true (some offered.flags)
      let memory := l.scan offered
      SameOutcome source p.beginAttempt parser memory.1 ∧
        source.Marks parser.2.host memory.2.offset ∧ StayInStep parser.2 memory.2 steps
  | p, l, .pass :: steps =>
      ∃ moved, l.bumpChar = .ok moved ∧
        source.Marks p.step.host moved.offset ∧ StayInStep p.step moved steps

theorem Abreast.stayInStep {source : Source} {p : ParserHost} {l : Lexer source}
    (abreast : Abreast p l) (steps : List HostStep) : StayInStep p l steps := by
  induction steps generalizing p l with
  | nil => trivial
  | cons step steps ih =>
      cases step with
      | scan offered =>
          obtain ⟨outcome, after⟩ := abreast.scan offered
          exact ⟨outcome, after.place, ih after⟩
      | pass =>
          obtain ⟨moved, stepped, after⟩ := abreast.pass
          exact ⟨moved, stepped, after.place, ih after⟩

end TemplateScan
