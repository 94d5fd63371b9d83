import TemplateScan.Proofs.Lexer.Reach

/-! # Probes that come to nothing

A call of a recognizer outside an attempt, and an attempt that gives no token, leave a probe, a
start, a committed end and a kind behind. None of them is seen again: an attempt begins by
forgetting them, and every answer of a host rests on its offset alone. So a run of a host gives the
same answers with such calls and without them (`Lexer.answers_of_allDiscarded`).
-/

namespace TemplateScan

/-! ### Runs and their answers -/

/-- Something that a host is to do or to tell in a run. -/
inductive Errand where
  | offset
  | isAtEnd
  | rest
  | spanToEnd
  | slice (span : Span)
  | peek
  | startsWith (marker : List Char)
  | make (call : HostCall)
deriving DecidableEq, Repr

/-- What a host gives back for an errand. -/
inductive Answer where
  | place (offset : Nat)
  | flag (b : Bool)
  | text (text : String)
  | span (span : Span)
  | char (c? : Option Char)
  | failed (fault : Fault)
  /-- What was seen in an attempt, and its token. -/
  | attempt (seen : List Sighting) (token? : Option Token)
deriving DecidableEq, Repr

/-- A line of a run: an errand whose answer counts, or a call besides. -/
inductive RunLine where
  | asked (errand : Errand)
  | stray (call : HostCall)
deriving DecidableEq, Repr

variable {source : Source}

def Answer.ofPlace : Checked Nat → Answer
  | .ok offset => .place offset
  | .error fault => .failed fault

/-- The answer to a call. For a move it is the place of the host after it; for an attempt, what was
seen and the token. -/
def HostCall.answer (l : Lexer source) : HostCall → Answer
  | .play script => .attempt (l.play script).1 (l.play script).2.1
  | .scan offered => .attempt [] (l.scan offered).1
  | call => .ofPlace ((call.run l).map Lexer.offset)

/-- Does a call come to nothing? It is made outside an attempt, or it is an attempt that is
refused or accepted without a kind. -/
def HostCall.IsDiscarded (l : Lexer source) : HostCall → Prop
  | .outside _ => True
  | .play script => (l.play script).2.1 = none
  | .scan offered => (l.scan offered).1 = none
  | _ => False

instance (l : Lexer source) : (call : HostCall) → Decidable (call.IsDiscarded l)
  | .setOffset _ => inferInstanceAs (Decidable False)
  | .bump _ => inferInstanceAs (Decidable False)
  | .bumpChar => inferInstanceAs (Decidable False)
  | .outside _ => inferInstanceAs (Decidable True)
  | .play script => inferInstanceAs (Decidable ((l.play script).2.1 = none))
  | .scan offered => inferInstanceAs (Decidable ((l.scan offered).1 = none))

namespace Errand

def answer (l : Lexer source) : Errand → Answer
  | .offset => .place l.offset
  | .isAtEnd => .flag l.isAtEnd
  | .rest => .text l.rest
  | .spanToEnd => .span l.spanToEnd
  | .slice span => .text (source.slice span)
  | .peek => .char l.peek?
  | .startsWith marker => .flag (l.startsWith marker)
  | .make call => call.answer l

/-- The host after an errand. Only a call can change it. -/
def after (l : Lexer source) : Errand → Lexer source
  | .make call => call.after l
  | _ => l

/-- The answers to errands in order. -/
def answers (l : Lexer source) : List Errand → List Answer
  | [] => []
  | errand :: errands => errand.answer l :: answers (errand.after l) errands

end Errand

namespace RunLine

def errand? : RunLine → Option Errand
  | .asked errand => some errand
  | .stray _ => none

/-- The answers to the errands of a run, with the calls besides made in between. -/
def answers (l : Lexer source) : List RunLine → List Answer
  | [] => []
  | .asked errand :: lines => errand.answer l :: answers (errand.after l) lines
  | .stray call :: lines => answers (call.after l) lines

/-- Does every call besides the errands come to nothing, where it is made? -/
def AllDiscarded (l : Lexer source) : List RunLine → Prop
  | [] => True
  | .asked errand :: lines => AllDiscarded (errand.after l) lines
  | .stray call :: lines => call.IsDiscarded l ∧ AllDiscarded (call.after l) lines

instance decidableAllDiscarded :
    (l : Lexer source) → (lines : List RunLine) → Decidable (AllDiscarded l lines)
  | _, [] => inferInstanceAs (Decidable True)
  | l, .asked errand :: lines => decidableAllDiscarded (errand.after l) lines
  | l, .stray call :: lines =>
      have := decidableAllDiscarded (call.after l) lines
      inferInstanceAs (Decidable (call.IsDiscarded l ∧ AllDiscarded (call.after l) lines))

end RunLine

namespace Lexer

open ScriptCall (perform)

variable {l l' : Lexer source}

/-! ### Calls that come to nothing -/

theorem offset_finish_of_none (refused : l.finish.1 = none) : l.finish.2.offset = l.offset := by
  cases unset : l.result with
  | none => rw [finish, unset]
  | some kind =>
      rw [finish, unset] at refused
      cases refused

theorem offset_play_of_none {script : Script} (refused : (l.play script).2.1 = none) :
    (l.play script).2.2.offset = l.offset := by
  have kept : (perform l.beginAttempt script.calls).offset = l.offset :=
    (kept_offset l.offset).perform script.calls rfl
  rw [play_eq] at refused ⊢
  split at refused
  · next accepted =>
      rw [if_pos accepted]
      exact (offset_finish_of_none refused).trans kept
  · next denied =>
      rw [if_neg denied]
      exact kept

/-- A call that comes to nothing leaves the host where it is. -/
theorem offset_after_of_isDiscarded {call : HostCall} (discarded : call.IsDiscarded l) :
    (call.after l).offset = l.offset := by
  cases call with
  | setOffset => exact discarded.elim
  | bump => exact discarded.elim
  | bumpChar => exact discarded.elim
  | outside call => exact (kept_offset l.offset).run call rfl
  | play script => exact offset_play_of_none discarded
  | scan offered => exact offset_eq_of_scan_eq_none (Prod.ext discarded rfl)

/-! ### Hosts at the same place -/

theorem beginAttempt_congr (same : l.offset = l'.offset) : l.beginAttempt = l'.beginAttempt := by
  rw [beginAttempt, beginAttempt, same]

/-- From the same place all recognizers see and do the same. -/
theorem attempt_congr (same : l.offset = l'.offset)
    (recognizer : Lexer source → Bool × Lexer source) :
    l.attempt recognizer = l'.attempt recognizer := by
  rw [attempt, attempt, beginAttempt_congr same]

theorem play_congr (same : l.offset = l'.offset) (script : Script) :
    l.play script = l'.play script := by
  rw [play, play, beginAttempt_congr same]

/-- The place that a call leads to, or the fault that it meets, rests on the place of the host. -/
theorem offset_run_congr (same : l.offset = l'.offset) (call : HostCall) :
    (call.run l).map offset = (call.run l').map offset := by
  have moved (wanted : Nat) :
      (l.setOffset wanted).map offset = (l'.setOffset wanted).map offset := by
    rw [setOffset, setOffset]
    split <;> rfl
  cases call with
  | setOffset wanted => exact moved wanted
  | bump bytes =>
      change (l.setOffset _).map offset = (l'.setOffset _).map offset
      rw [same]
      exact moved _
  | bumpChar =>
      change l.bumpChar.map offset = l'.bumpChar.map offset
      rw [bumpChar, bumpChar, isAtEnd, isAtEnd, same]
      split
      · exact congrArg Except.ok same
      · exact moved _
  | outside call =>
      have left := (kept_offset l.offset).run call rfl
      have right := (kept_offset l'.offset).run call rfl
      exact congrArg Except.ok ((left.trans same).trans right.symm)
  | play script =>
      rw [HostCall.run, HostCall.run, play_congr same]
  | scan offered =>
      rw [HostCall.run, HostCall.run, scan, scan, attempt_congr same]

/-- A call leads hosts at the same place to the same place. -/
theorem offset_after_congr (same : l.offset = l'.offset) (call : HostCall) :
    (call.after l).offset = (call.after l').offset := by
  have places := offset_run_congr same call
  rw [HostCall.after, HostCall.after]
  cases left : call.run l <;> cases right : call.run l' <;> rw [left, right] at places
  case error.error => exact same
  case error.ok => cases places
  case ok.error => cases places
  case ok.ok => exact Except.ok.inj places

theorem answer_make_congr (same : l.offset = l'.offset) (call : HostCall) :
    call.answer l = call.answer l' := by
  have told := congrArg Answer.ofPlace (offset_run_congr same call)
  cases call with
  | setOffset => exact told
  | bump => exact told
  | bumpChar => exact told
  | outside => exact told
  | play script => rw [HostCall.answer, HostCall.answer, play_congr same]
  | scan offered => rw [HostCall.answer, HostCall.answer, scan, scan, attempt_congr same]

/-- Hosts at the same place answer an errand alike. -/
theorem answer_congr (same : l.offset = l'.offset) (errand : Errand) :
    errand.answer l = errand.answer l' := by
  cases errand with
  | offset => exact congrArg Answer.place same
  | isAtEnd => simp only [Errand.answer, isAtEnd, same]
  | rest => simp only [Errand.answer, rest, same]
  | spanToEnd => simp only [Errand.answer, spanToEnd, same]
  | slice => rfl
  | peek => simp only [Errand.answer, peek?, same]
  | startsWith => simp only [Errand.answer, startsWith, same]
  | make call => exact answer_make_congr same call

theorem offset_errand_congr (same : l.offset = l'.offset) (errand : Errand) :
    (errand.after l).offset = (errand.after l').offset := by
  cases errand with
  | make call => exact offset_after_congr same call
  | _ => exact same

/-! ### Whole runs -/

/-- A run with calls that come to nothing keeps in step with the run of its errands alone, from any
two hosts at the same place. -/
theorem answers_congr {lines : List RunLine} (same : l.offset = l'.offset)
    (discarded : RunLine.AllDiscarded l lines) :
    RunLine.answers l lines = Errand.answers l' (lines.filterMap RunLine.errand?) := by
  induction lines generalizing l l' with
  | nil => rfl
  | cons line lines ih =>
      cases line with
      | asked errand =>
          -- Both hosts run the errand, and are at the same place again.
          have rest := ih (offset_errand_congr same errand) discarded
          change errand.answer l :: RunLine.answers (errand.after l) lines =
            errand.answer l' :: Errand.answers (errand.after l') (lines.filterMap RunLine.errand?)
          rw [answer_congr same, rest]
      | stray call =>
          -- Only the first host makes the call, and it stays where it is.
          obtain ⟨nothing, discarded⟩ := discarded
          exact ih ((offset_after_of_isDiscarded nothing).trans same) discarded

/-- **Probes that come to nothing leave no trace.** Calls of a recognizer outside attempts and
attempts that give no token can stand anywhere in a run: the answers to its errands are those of
the run without them. -/
theorem answers_of_allDiscarded (l : Lexer source) (lines : List RunLine)
    (discarded : RunLine.AllDiscarded l lines) :
    RunLine.answers l lines = Errand.answers l (lines.filterMap RunLine.errand?) :=
  answers_congr rfl discarded

/-- A run with calls outside attempts, an attempt without a kind and a refused attempt. -/
def strewnRun : List RunLine :=
  [.stray (.outside .advance), .stray (.outside .markEnd), .stray (.outside (.setResult .comment)),
    .asked (.make (.play ⟨[.look, .advance, .atEnd], true⟩)), .asked (.make .bumpChar),
    .stray (.play ⟨[.advance, .markEnd], true⟩), .asked (.make (.scan (.only .comment))),
    .stray (.scan (.only .comment)), .asked .rest]

/-- The kind and the end that are reported outside an attempt do not make a token of the attempt
that follows. -/
theorem answers_of_allDiscarded_accent :
    RunLine.AllDiscarded ({} : Lexer (.ofText "é /**/x")) strewnRun ∧
      RunLine.answers ({} : Lexer (.ofText "é /**/x")) strewnRun =
        [.attempt [.char 'é', .flag false] none, .place 2,
          .attempt [] (some ⟨.comment, ⟨3, 7⟩⟩), .text "x"] := by
  have discarded : RunLine.AllDiscarded ({} : Lexer (.ofText "é /**/x")) strewnRun := by
    decide +kernel
  refine ⟨discarded, ?_⟩
  rw [answers_of_allDiscarded _ _ discarded]
  decide +kernel

end Lexer

end TemplateScan
