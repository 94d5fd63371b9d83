import TemplateScan.Proofs.Cursor.Recorder
import TemplateScan.Proofs.ParserHost

/-! # Parsers as recorders

A parser may hold any code numbers, also such as stand for no character, and may be at any place of
them. An attempt through its lexer is the one that a recorder of the characters from that place on
would write down, with the same places counted from there (`Plugin.scan_mirrors`). The lexer stops
at the end of input and a recorder does not, but an attempt never moves there
(`Recognizer.moves_script_le`), so each call keeps them together (`Mirrors`).
-/

namespace TemplateScan

open Recognizer (script)
open ScriptCall (perform)

/-- Code numbers below zero, surrogates, and those beyond the last character stand for U+FFFD. -/
theorem charOfCode_eq (code : Int) :
    charOfCode code =
      if code < 0 ∨ 0xD800 ≤ code ∧ code ≤ 0xDFFF ∨ 0x10FFFF < code then replacementChar
      else Char.ofNat code.toNat := by
  have valid : (0 ≤ code ∧ code.toNat.isValidChar) ↔
      ¬ (code < 0 ∨ 0xD800 ≤ code ∧ code ≤ 0xDFFF ∨ 0x10FFFF < code) := by
    rw [Nat.isValidChar]
    omega
  rw [charOfCode]
  by_cases real : 0 ≤ code ∧ code.toNat.isValidChar
  · rw [if_pos real, if_neg (valid.mp real)]
  · rw [if_neg real, if_pos (Decidable.not_not.mp (fun other => real (valid.mpr other)))]

/-- A parser in an attempt that began at a place, and a recorder of what is left there. -/
structure Mirrors (index : Nat) (p : ParserHost) (r : Recorder) : Prop where
  calls : p.calls = r.calls
  start : p.start = index + r.skipped
  probe : p.probe = index + r.probe
  marked : p.marked = r.marks.back?.map (index + ·)

namespace Mirrors

variable {index : Nat} {p : ParserHost} {r : Recorder} {calls : List ScriptCall}

theorem advance (mirrors : Mirrors index p r) (inside : p.probe < p.codes.size) :
    Mirrors index (Cursor.advance p) (Cursor.advance r) := by
  have skipped : (Cursor.advance r).skipped = r.skipped :=
    (Recorder.records_run (.inr (.inl rfl)) r).skipped
  simp only [Cursor.advance, ParserHost.advance, ParserHost.move_of_lt inside] at skipped ⊢
  refine ⟨?_, ?_, ?_, mirrors.marked⟩
  · rw [mirrors.calls]
    rfl
  · rw [skipped]
    exact mirrors.start
  · rw [mirrors.probe]
    rfl

theorem markEnd (mirrors : Mirrors index p r) :
    Mirrors index (Cursor.markEnd p) (Cursor.markEnd r) := by
  have skipped : (Cursor.markEnd r).skipped = r.skipped :=
    (Recorder.records_run (.inr (.inr rfl)) r).skipped
  refine ⟨?_, ?_, mirrors.probe, ?_⟩
  · change p.calls.push .markEnd = r.calls.push .markEnd
    rw [mirrors.calls]
  · rw [skipped]
    exact mirrors.start
  · change some p.probe = (r.marks.push r.probe).back?.map (index + ·)
    rw [Array.back?_push, mirrors.probe]
    rfl

/-- A skip takes the start along on a parser only, so nothing may have been taken before it. -/
theorem skip (mirrors : Mirrors index p r) (inside : p.probe < p.codes.size)
    (unbegun : r.skipped = r.probe) :
    Mirrors index (Cursor.skip p) (Cursor.skip r) ∧
      (Cursor.skip r).skipped = (Cursor.skip r).probe := by
  have skipped : (Cursor.skip r).skipped = r.skipped + 1 :=
    (Recorder.records_run (.inl rfl) r).skipped
  have probe : (Cursor.skip r).probe = r.probe + 1 := rfl
  rw [skipped, probe, unbegun]
  simp only [Cursor.skip, ParserHost.skip, ParserHost.move_of_lt inside] at skipped probe ⊢
  refine ⟨⟨?_, ?_, ?_, mirrors.marked⟩, trivial⟩
  · rw [mirrors.calls]
    rfl
  · rw [skipped, mirrors.probe, unbegun]
    rfl
  · rw [mirrors.probe]
    rfl

/-- The calls keep a parser and a recorder together as long as there is room for the moves. -/
theorem tandem (index : Nat) : Recognizer.Tandem
    (fun count p r => (Mirrors index p r ∧ count ≤ p.codes.size - p.probe) ∧ r.skipped = r.probe)
    (fun count p r => Mirrors index p r ∧ count ≤ p.codes.size - p.probe) where
  skip := by
    rintro count p r ⟨⟨mirrors, room⟩, unbegun⟩
    have inside : p.probe < p.codes.size := by omega
    obtain ⟨mirrors, unbegun⟩ := mirrors.skip inside unbegun
    refine ⟨⟨mirrors, ?_⟩, unbegun⟩
    simp only [Cursor.skip, ParserHost.skip, ParserHost.move_of_lt inside]
    omega
  begins := And.left
  advance := by
    rintro count p r ⟨mirrors, room⟩
    have inside : p.probe < p.codes.size := by omega
    refine ⟨mirrors.advance inside, ?_⟩
    simp only [Cursor.advance, ParserHost.advance, ParserHost.move_of_lt inside]
    omega
  markEnd := fun ⟨mirrors, room⟩ => ⟨mirrors.markEnd, room⟩

/-- An attempt keeps a parser and a recorder together from its beginning on. -/
theorem perform_script (mirrors : Mirrors index p r) (unbegun : r.skipped = r.probe)
    (offered : Offered) :
    Mirrors index (perform p (script offered (Cursor.ahead p)).2)
      (perform r (script offered (Cursor.ahead p)).2) := by
  have room := Recognizer.moves_script_le offered (Cursor.ahead p)
  have width : (Cursor.ahead p).length = p.codes.size - p.probe := by
    rw [ParserHost.ahead_eq, List.length_map, List.length_drop, Array.length_toList]
  rw [width] at room
  exact ((tandem index).perform_script offered _ ⟨⟨mirrors, room⟩, unbegun⟩).1

end Mirrors

/-- A parser at a place of its code numbers, with its lexer ready for an attempt there. The slot for
the symbol holds what it held before. -/
def ParserHost.lent (codes : List Int) (index slot : Nat) : ParserHost :=
  { codes := codes.toArray, host := index, start := index, probe := index, symbol := slot }

theorem ParserHost.ahead_lent (codes : List Int) (index slot : Nat) :
    Cursor.ahead (lent codes index slot) = (codes.drop index).map charOfCode :=
  ahead_eq _

/-- **Parsers are recorders.** Whatever code numbers a parser holds, wherever it is and whatever it
offers, an attempt makes the calls and comes to the places that it makes and comes to on a recorder
of the characters ahead. It writes to the slot for the symbol exactly if it is accepted. Without a
lexer or without flags it is refused, and the parser stays as it was. -/
theorem Plugin.scan_mirrors (codes : List Int) (index slot : Nat) (content comment : Bool) :
    (∃ kind? r after,
      Recognizer.recognize ⟨content, comment⟩
        (Recorder.fresh ((codes.drop index).map charOfCode)) = (kind?, r) ∧
      scan (some (.lent codes index slot)) (some [content, comment]) =
        (kind?.isSome, some after) ∧
      Mirrors index after r ∧ after.symbol = (kind?.map TokenKind.symbol).getD slot) ∧
    (∀ code, charOfCode code =
      if code < 0 ∨ 0xD800 ≤ code ∧ code ≤ 0xDFFF ∨ 0x10FFFF < code then '\uFFFD'
      else Char.ofNat code.toNat) ∧
    ∀ (p : ParserHost) (flags : Option (List Bool)),
      scan none flags = (false, none) ∧ scan (some p) none = (false, some p) ∧
        p.attempt false flags = (false, p.beginAttempt) ∧
        p.attempt true none = (false, p.beginAttempt) := by
  refine ⟨?_, charOfCode_eq, fun p flags => ⟨rfl, rfl, rfl, rfl⟩⟩
  have begun : Mirrors index (.lent codes index slot)
      (Recorder.fresh ((codes.drop index).map charOfCode)) := ⟨rfl, rfl, rfl, rfl⟩
  have together := begun.perform_script rfl ⟨content, comment⟩
  have frame := ParserHost.perform_frame (p := .lent codes index slot)
    (Recognizer.script_moves ⟨content, comment⟩ ((codes.drop index).map charOfCode))
  have flags : Offered.ofFlags ([content, comment].take TokenKind.all.length) =
      ⟨content, comment⟩ := Offered.ofFlags_flags ⟨content, comment⟩
  rw [ParserHost.ahead_lent] at together
  rw [Recorder.recognize_eq, scan, flags, Recognizer.scan, Recognizer.recognize_eq_script,
    ParserHost.ahead_lent]
  cases (script ⟨content, comment⟩ ((codes.drop index).map charOfCode)).1 with
  | none => exact ⟨none, _, _, rfl, rfl, together, frame.2.2⟩
  | some kind =>
      exact ⟨some kind, _, _, rfl, rfl,
        ⟨together.calls, together.start, together.probe, together.marked⟩, rfl⟩

end TemplateScan
