import TemplateScan.Proofs.Lexer

/-! # The positions of an attempt

Whatever a recognizer does in an attempt, the positions of the host stay in the source and in order
(`Lexer.InBounds`), and so the attempt gives a token between the place of the host and its new
place, or leaves it where it is (`Lexer.Attempted`). A property that each call keeps (`Lexer.Kept`)
holds throughout an attempt.
-/

namespace TemplateScan

/-- A call that reports no kind of token. -/
def ScriptCall.IsSilent : ScriptCall → Prop
  | .setResult _ => False
  | .scan _ => False
  | _ => True

namespace Lexer

open ScriptCall (perform)

variable {source : Source} {l : Lexer source}

/-- The positions of a host lie in the source and in order. -/
structure InBounds (l : Lexer source) : Prop where
  offset_le : l.offset ≤ source.size
  start_le : l.start ≤ l.probe
  probe_le : l.probe ≤ source.size
  marked_le : ∀ stop, l.marked = some stop → stop ≤ l.probe

theorem add_widthAt_le {offset : Nat} (bound : offset ≤ source.size) :
    offset + widthAt source offset ≤ source.size := by
  unfold widthAt
  omega

/-! ### What the calls of a recognizer keep -/

/-- A property of hosts that the calls of a recognizer keep. -/
structure Kept (I : Lexer source → Prop) : Prop where
  advance : ∀ l, I l → I (Cursor.advance l)
  skip : ∀ l, I l → I (Cursor.skip l)
  markEnd : ∀ l, I l → I (Cursor.markEnd l)
  setResult : ∀ l kind, I l → I (Cursor.setResult l kind)

namespace Kept

variable {I : Lexer source → Prop}

theorem scan (kept : Kept I) (offered : Offered) (holds : I l) :
    I (Recognizer.scan offered l).2 := by
  have recognized : I (perform l (Recognizer.script offered (Cursor.ahead l)).2) :=
    Recognizer.perform_kept kept.skip kept.advance kept.markEnd
      (Recognizer.script_moves offered (Cursor.ahead l)) holds
  rw [Recognizer.scan, Recognizer.recognize_eq_script]
  cases (Recognizer.script offered (Cursor.ahead l)).1 with
  | none => exact recognized
  | some kind => exact kept.setResult _ kind recognized

theorem run (kept : Kept I) (call : ScriptCall) (holds : I l) : I (call.run l).2 := by
  cases call with
  | advance => exact kept.advance l holds
  | skip => exact kept.skip l holds
  | markEnd => exact kept.markEnd l holds
  | setResult kind => exact kept.setResult l kind holds
  | look => exact holds
  | atEnd => exact holds
  | scan offered => exact kept.scan offered holds

theorem perform (kept : Kept I) (calls : List ScriptCall) (holds : I l) :
    I (perform l calls) := by
  induction calls generalizing l with
  | nil => exact holds
  | cons call calls ih => exact ih (kept.run call holds)

end Kept

theorem kept_offset (offset : Nat) : Kept fun l : Lexer source => l.offset = offset where
  advance l same := (offset_advance l).trans same
  skip l same := (offset_skip l).trans same
  markEnd _ same := same
  setResult _ _ same := same

/-- The positions of an attempt all have a property. -/
structure Positions (P : Nat → Prop) (l : Lexer source) : Prop where
  start : P l.start
  probe : P l.probe
  marked : ∀ stop, l.marked = some stop → P stop

theorem Positions.consume {P : Nat → Prop}
    (closed : ∀ offset < source.size, P offset → P (offset + widthAt source offset))
    (positions : Positions P l) : Positions P l.consume := by
  rw [Lexer.consume]
  split
  · next inside => exact ⟨positions.start, closed _ inside positions.probe, positions.marked⟩
  · exact positions

theorem kept_positions {P : Nat → Prop}
    (closed : ∀ offset < source.size, P offset → P (offset + widthAt source offset)) :
    Kept (Positions P : Lexer source → Prop) where
  advance l positions := by
    obtain ⟨start, probe, marked⟩ := positions.consume closed
    exact ⟨start, probe, marked⟩
  skip l positions := by
    obtain ⟨start, probe, marked⟩ := positions.consume closed
    change Positions P l.skip
    rw [Lexer.skip]
    split
    · exact ⟨start, probe, marked⟩
    · exact ⟨probe, probe, marked⟩
  markEnd l positions := by
    refine ⟨positions.start, positions.probe, ?_⟩
    rintro stop same
    cases same
    exact positions.probe
  setResult l kind positions := ⟨positions.start, positions.probe, positions.marked⟩

theorem InBounds.consume (inBounds : l.InBounds) : l.consume.InBounds := by
  have forward := le_probe_consume l
  obtain ⟨offset, start, probe, marked⟩ := inBounds
  rw [Lexer.consume] at forward ⊢
  split at forward
  · next inside =>
      rw [if_pos inside]
      refine ⟨offset, Nat.le_trans start forward, add_widthAt_le probe, ?_⟩
      intro stop same
      exact Nat.le_trans (marked stop same) forward
  · next ended =>
      rw [if_neg ended]
      exact ⟨offset, start, probe, marked⟩

theorem kept_inBounds : Kept (InBounds : Lexer source → Prop) where
  advance l inBounds := by
    obtain ⟨offset, start, probe, marked⟩ := inBounds.consume
    exact ⟨offset, start, probe, marked⟩
  skip l inBounds := by
    obtain ⟨offset, start, probe, marked⟩ := inBounds.consume
    change l.skip.InBounds
    rw [Lexer.skip]
    split
    · exact ⟨offset, start, probe, marked⟩
    · exact ⟨offset, Nat.le_refl _, probe, marked⟩
  markEnd l inBounds := by
    refine ⟨inBounds.offset_le, inBounds.start_le, inBounds.probe_le, ?_⟩
    rintro stop same
    cases same
    exact Nat.le_refl _
  setResult l kind inBounds :=
    ⟨inBounds.offset_le, inBounds.start_le, inBounds.probe_le, inBounds.marked_le⟩

/-! ### Attempts -/

/-- What an attempt from the place of a host comes to: a token that reaches up to the new place of
the host, or none and the host where it was. -/
structure Attempted (l : Lexer source) (outcome : Option Token × Lexer source) : Prop where
  accepted : ∀ token, outcome.1 = some token →
    l.offset ≤ token.span.start ∧ token.span.start ≤ token.span.stop ∧
      token.span.stop = outcome.2.offset ∧ outcome.2.offset ≤ source.size
  refused : outcome.1 = none → outcome.2.offset = l.offset
  boundaries : source.isBoundary l.offset = true → ∀ token, outcome.1 = some token →
    source.isBoundary token.span.start = true ∧ source.isBoundary token.span.stop = true

theorem isBoundary_add_widthAt {offset : Nat} (inside : offset < source.size)
    (boundary : source.isBoundary offset = true) :
    source.isBoundary (offset + widthAt source offset) = true := by
  obtain ⟨text, left⟩ := Source.isBoundary_iff.mp boundary
  cases text with
  | nil =>
      have ends := left.add_byteLength
      rw [byteLength_nil] at ends
      omega
  | cons c text =>
      rw [left.widthAt_eq]
      exact left.tail.isBoundary

theorem Positions.stop {P : Nat → Prop} (positions : Positions P l) :
    P (l.marked.getD l.probe) := by
  cases marked : l.marked with
  | none => exact positions.probe
  | some stop => exact positions.marked stop marked

/-- A host in an attempt that began at `offset`. -/
structure Attempting (offset : Nat) (l : Lexer source) : Prop where
  inBounds : l.InBounds
  offset_eq : l.offset = offset
  behind : Positions (offset ≤ ·) l
  boundaries : source.isBoundary offset = true → Positions (source.isBoundary · = true) l

theorem attempting_begin (inBounds : l.InBounds) : Attempting l.offset l.beginAttempt where
  inBounds :=
    ⟨inBounds.offset_le, Nat.le_refl _, inBounds.offset_le, fun _ impossible => nomatch impossible⟩
  offset_eq := rfl
  behind := ⟨Nat.le_refl _, Nat.le_refl _, fun _ impossible => nomatch impossible⟩
  boundaries boundary := ⟨boundary, boundary, fun _ impossible => nomatch impossible⟩

theorem attempting_perform (inBounds : l.InBounds) (calls : List ScriptCall) :
    Attempting l.offset (perform l.beginAttempt calls) := by
  obtain ⟨begun, offset_eq, behind, boundaries⟩ := attempting_begin inBounds
  refine ⟨kept_inBounds.perform calls begun, (kept_offset l.offset).perform calls offset_eq,
    (kept_positions ?_).perform calls behind, ?_⟩
  · intro offset _ reached
    exact Nat.le_trans reached (Nat.le_add_right _ _)
  · intro boundary
    refine (kept_positions ?_).perform calls (boundaries boundary)
    intro offset
    exact isBoundary_add_widthAt

theorem Attempting.refuse {ended : Lexer source} (attempting : Attempting l.offset ended) :
    Attempted l (none, ended) where
  accepted _ impossible := nomatch impossible
  refused _ := attempting.offset_eq
  boundaries _ _ impossible := nomatch impossible

theorem InBounds.stop_le (inBounds : l.InBounds) : l.marked.getD l.probe ≤ source.size := by
  apply Positions.stop (P := (· ≤ source.size))
  refine ⟨Nat.le_trans inBounds.start_le inBounds.probe_le, inBounds.probe_le, ?_⟩
  intro stop marked
  exact Nat.le_trans (inBounds.marked_le stop marked) inBounds.probe_le

theorem Attempting.finish {ended : Lexer source} (attempting : Attempting l.offset ended) :
    Attempted l ended.finish := by
  rw [Lexer.finish]
  cases ended.result with
  | none => exact attempting.refuse
  | some kind =>
      constructor
      case accepted =>
        intro token same
        cases same
        exact ⟨Nat.le_min.mpr ⟨attempting.behind.start, attempting.behind.stop⟩,
          Nat.min_le_right _ _, rfl, attempting.inBounds.stop_le⟩
      case refused =>
        intro impossible
        cases impossible
      case boundaries =>
        intro boundary token same
        cases same
        have positions := attempting.boundaries boundary
        refine ⟨?_, positions.stop⟩
        rcases Nat.le_total ended.start (ended.marked.getD ended.probe) with before | behind
        · rw [Nat.min_eq_left before]
          exact positions.start
        · rw [Nat.min_eq_right behind]
          exact positions.stop

theorem play_eq (l : Lexer source) (script : Script) :
    (l.play script).2 =
      if script.accept = true then (perform l.beginAttempt script.calls).finish
      else (none, perform l.beginAttempt script.calls) := by
  rw [play, perform]
  cases script.accept <;> rfl

/-- The recognizer makes the calls of a script. -/
theorem scan_eq_play (l : Lexer source) (offered : Offered) :
    l.scan offered =
      (l.play ⟨[.scan offered], (Recognizer.scan offered l.beginAttempt).1⟩).2 := by
  rw [play_eq, scan, attempt]
  change _ = if _ then Lexer.finish (Recognizer.scan offered l.beginAttempt).2
    else (none, (Recognizer.scan offered l.beginAttempt).2)
  generalize Recognizer.scan offered l.beginAttempt = outcome
  obtain ⟨accepted, ended⟩ := outcome
  cases accepted <;> rfl

theorem attempted_play (inBounds : l.InBounds) (script : Script) :
    Attempted l (l.play script).2 := by
  have attempting := attempting_perform inBounds script.calls
  rw [play_eq]
  split
  · exact attempting.finish
  · exact attempting.refuse

theorem InBounds.finish (inBounds : l.InBounds) : l.finish.2.InBounds := by
  rw [Lexer.finish]
  cases l.result with
  | none => exact inBounds
  | some kind =>
      exact ⟨inBounds.stop_le, inBounds.start_le, inBounds.probe_le, inBounds.marked_le⟩

theorem InBounds.play (inBounds : l.InBounds) (script : Script) :
    (l.play script).2.2.InBounds := by
  have ended := (attempting_perform inBounds script.calls).inBounds
  rw [play_eq]
  split
  · exact ended.finish
  · exact ended

theorem result_of_silent {calls : List ScriptCall} (silent : ∀ call ∈ calls, call.IsSilent)
    (unset : l.result = none) : (perform l calls).result = none := by
  induction calls generalizing l with
  | nil => exact unset
  | cons call calls ih =>
      apply ih fun other member => silent other (List.mem_cons_of_mem call member)
      have quiet := silent call List.mem_cons_self
      obtain ⟨probe, consumed⟩ := consume_eq l
      cases call with
      | advance =>
          change l.consume.result = none
          rw [consumed]
          exact unset
      | skip =>
          change l.skip.result = none
          rw [skip, consumed]
          split <;> exact unset
      | markEnd => exact unset
      | setResult => exact quiet.elim
      | look => exact unset
      | atEnd => exact unset
      | scan => exact quiet.elim

/-- Without a kind of token an attempt gives none. -/
theorem play_of_silent (l : Lexer source) {script : Script}
    (silent : ∀ call ∈ script.calls, call.IsSilent) : (l.play script).2.1 = none := by
  have unset : (perform l.beginAttempt script.calls).result = none :=
    result_of_silent silent rfl
  rw [play_eq]
  split
  · rw [finish, unset]
  · rfl

end Lexer

end TemplateScan
