import TemplateScan.Lexer

/-! # Accepted tokens move the host

An attempt that is accepted commits to an end behind the place where it began, so the host's offset
strictly grows with every token.
-/

namespace TemplateScan

namespace Lexer

variable {source : Source}

/-- The attempt has committed to an end behind `offset`. -/
def EndsBehind (offset : Nat) (l : Lexer source) : Prop :=
  ∃ stop, l.marked = some stop ∧ offset < stop

theorem lt_probe_advance {l : Lexer source} (h : Cursor.atEnd l = false) :
    l.probe < (Cursor.advance l).probe :=
  lt_probe_consume (by simpa [Cursor.atEnd, probeAtEnd] using h)

theorem le_probe_advance (l : Lexer source) : l.probe ≤ (Cursor.advance l).probe :=
  le_probe_consume l

/-- A lookahead that is not U+0000 is not at the end. -/
theorem atEnd_eq_false_of_lookahead {l : Lexer source} {c : Char}
    (h : Cursor.lookahead l = c) (hc : c ≠ endChar) : Cursor.atEnd l = false := by
  cases hend : Cursor.atEnd l with
  | false => rfl
  | true =>
      have : l.probeAtEnd = true := hend
      simp only [Cursor.lookahead, lookahead, this, ↓reduceIte] at h
      exact absurd h.symm hc

/-- A closed comment ends behind the place from which its closing was looked for. -/
theorem closeComment_endsBehind {l l' : Lexer source} {kind : TokenKind}
    (h : Recognizer.closeComment l = (some kind, l')) : EndsBehind l.probe l' := by
  fun_induction Recognizer.closeComment l with
  | case1 => simp at h
  | case2 l hend _ star _ =>
      cases h
      have hopen : Cursor.atEnd l = false := by simpa using hend
      exact ⟨_, rfl, Nat.lt_of_lt_of_le (lt_probe_advance hopen) (le_probe_advance star)⟩
  | case3 l hend _ star _ ih =>
      obtain ⟨stop, hmarked, hlt⟩ := ih h
      have hopen : Cursor.atEnd l = false := by simpa using hend
      exact ⟨stop, hmarked, Nat.lt_trans (lt_probe_advance hopen) hlt⟩
  | case4 l hend _ ih =>
      obtain ⟨stop, hmarked, hlt⟩ := ih h
      have hopen : Cursor.atEnd l = false := by simpa using hend
      exact ⟨stop, hmarked, Nat.lt_trans (lt_probe_advance hopen) hlt⟩

/-- A comment ends behind its slash. -/
theorem comment_endsBehind {l l' : Lexer source} {kind : TokenKind}
    (h : Recognizer.comment l = (some kind, l')) : EndsBehind l.probe l' := by
  unfold Recognizer.comment at h
  dsimp only at h
  split at h
  · obtain ⟨stop, hmarked, hlt⟩ := closeComment_endsBehind h
    refine ⟨stop, hmarked, Nat.lt_of_le_of_lt ?_ hlt⟩
    exact Nat.le_trans (le_probe_advance (Cursor.markEnd l)) (le_probe_advance _)
  · simp at h

/-- A run of text that already holds a character ends at or behind its probe. -/
theorem content_true_ends {l l' : Lexer source} {kind : TokenKind}
    (h : Recognizer.content true l = (some kind, l')) :
    ∃ stop, l'.marked = some stop ∧ l.probe ≤ stop := by
  generalize hnonempty : true = nonempty at h
  fun_induction Recognizer.content nonempty l with
  | case1 l _ => cases h; exact ⟨_, rfl, Nat.le_refl _⟩
  | case2 => simp at h
  | case3 nonempty l _ _ bracket _ =>
      simp only [Prod.mk.injEq] at h
      rw [← h.2]
      exact ⟨l.probe, marked_consume (Cursor.markEnd l), Nat.le_refl _⟩
  | case4 nonempty l _ _ bracket _ ih =>
      obtain ⟨stop, hmarked, hle⟩ := ih rfl h
      exact ⟨stop, hmarked, Nat.le_trans (le_probe_advance (Cursor.markEnd l)) hle⟩
  | case5 nonempty l _ _ ih =>
      obtain ⟨stop, hmarked, hle⟩ := ih rfl h
      exact ⟨stop, hmarked, Nat.le_trans (le_probe_advance l) hle⟩

/-- A run of text ends behind its start, and there is text at its start. -/
theorem content_endsBehind {l l' : Lexer source} {kind : TokenKind}
    (h : Recognizer.content false l = (some kind, l')) :
    Cursor.atEnd l = false ∧ EndsBehind l.probe l' := by
  unfold Recognizer.content at h
  split at h
  · simp at h
  next hend =>
    have hopen : Cursor.atEnd l = false := by simpa using hend
    refine ⟨hopen, ?_⟩
    split at h
    · dsimp only at h
      split at h
      · simp at h
      · obtain ⟨stop, hmarked, hle⟩ := content_true_ends h
        exact ⟨stop, hmarked,
          Nat.lt_of_lt_of_le (lt_probe_advance (l := Cursor.markEnd l) hopen) hle⟩
    · obtain ⟨stop, hmarked, hle⟩ := content_true_ends h
      exact ⟨stop, hmarked, Nat.lt_of_lt_of_le (lt_probe_advance hopen) hle⟩

/-- Skipping blanks never moves the probe back. -/
theorem le_probe_skipBlanks (l : Lexer source) :
    l.probe ≤ (Recognizer.skipBlanks l).probe := by
  fun_induction Recognizer.skipBlanks l with
  | case1 l _ ih =>
      refine Nat.le_trans ?_ ih
      change l.probe ≤ l.skip.probe
      rw [probe_skip]
      exact le_probe_consume l
  | case2 => exact Nat.le_refl _

/-- A recognized token ends behind the place where the attempt began, and input is left there. -/
theorem recognize_endsBehind {offered : Offered} {l l' : Lexer source} {kind : TokenKind}
    (h : Recognizer.recognize offered l = (some kind, l')) :
    l.probe < source.size ∧ EndsBehind l.probe l' := by
  unfold Recognizer.recognize at h
  dsimp only at h
  generalize hblanks : (if offered.insideDirective = true then Recognizer.skipBlanks l else l) =
    begun at h
  have hbegun : l.probe ≤ begun.probe := by
    rw [← hblanks]
    split
    · exact le_probe_skipBlanks l
    · exact Nat.le_refl _
  have hstep : Cursor.atEnd begun = false ∧ EndsBehind begun.probe l' := by
    split at h
    next hslash =>
      exact ⟨atEnd_eq_false_of_lookahead hslash.2 (by decide), comment_endsBehind h⟩
    · split at h
      · exact content_endsBehind h
      · simp at h
  obtain ⟨hopen, stop, hmarked, hlt⟩ := hstep
  have hprobe : begun.probe < source.size := by
    simpa [Cursor.atEnd, probeAtEnd] using hopen
  exact ⟨by omega, stop, hmarked, by omega⟩

/-- With every accepted token the host moves forward, from a place where input is left. -/
theorem offset_lt_of_scan_eq_some {offered : Offered} {l l' : Lexer source} {token : Token}
    (h : l.scan offered = (some token, l')) :
    l.offset < source.size ∧ l.offset < l'.offset := by
  unfold scan attempt Recognizer.scan at h
  cases hrec : Recognizer.recognize offered l.beginAttempt with
  | mk kind? found =>
      cases kind? with
      | none => simp [hrec] at h
      | some kind =>
          obtain ⟨hsize, stop, hmarked, hlt⟩ := recognize_endsBehind hrec
          simp only [hrec, finish, Cursor.setResult, setResult, Prod.mk.injEq] at h
          obtain ⟨_, rfl⟩ := h
          simp only [hmarked, Option.getD_some]
          exact ⟨hsize, hlt⟩

/-! ### Refused attempts -/

@[simp] theorem offset_advance (l : Lexer source) : (Cursor.advance l).offset = l.offset :=
  offset_consume l

@[simp] theorem offset_markEnd (l : Lexer source) : (Cursor.markEnd l).offset = l.offset :=
  rfl

@[simp] theorem offset_closeComment (l : Lexer source) :
    (Recognizer.closeComment l).2.offset = l.offset := by
  fun_induction Recognizer.closeComment l with
  | case1 => rfl
  | case2 l _ _ star _ => simp [star]
  | case3 l _ _ star _ ih => simpa [star] using ih
  | case4 l _ _ ih => simpa using ih

@[simp] theorem offset_comment (l : Lexer source) :
    (Recognizer.comment l).2.offset = l.offset := by
  unfold Recognizer.comment
  dsimp only
  split <;> simp

@[simp] theorem offset_content (nonempty : Bool) (l : Lexer source) :
    (Recognizer.content nonempty l).2.offset = l.offset := by
  fun_induction Recognizer.content nonempty l with
  | case1 => rfl
  | case2 => rfl
  | case3 nonempty l _ _ bracket _ => simp [bracket]
  | case4 nonempty l _ _ bracket _ ih => simpa [bracket] using ih
  | case5 nonempty l _ _ ih => simpa using ih

@[simp] theorem offset_skipBlanks (l : Lexer source) :
    (Recognizer.skipBlanks l).offset = l.offset := by
  fun_induction Recognizer.skipBlanks l with
  | case1 l _ ih => exact ih.trans (offset_skip l)
  | case2 => rfl

/-- No attempt moves the host by itself. -/
@[simp] theorem offset_recognize (offered : Offered) (l : Lexer source) :
    (Recognizer.recognize offered l).2.offset = l.offset := by
  unfold Recognizer.recognize
  dsimp only
  repeat' split
  all_goals simp

/-- A refused attempt leaves the host where it is. -/
theorem offset_eq_of_scan_eq_none {offered : Offered} {l l' : Lexer source}
    (h : l.scan offered = (none, l')) : l'.offset = l.offset := by
  unfold scan attempt Recognizer.scan at h
  have hoffset := offset_recognize offered l.beginAttempt
  cases hrec : Recognizer.recognize offered l.beginAttempt with
  | mk kind? found =>
      rw [hrec] at hoffset
      cases kind? with
      | none =>
          simp only [hrec, Prod.mk.injEq, true_and] at h
          rw [← h]
          exact hoffset
      | some kind => simp [hrec, finish, Cursor.setResult, setResult] at h

/-- A host that could be moved is where it was moved to, in the source. -/
theorem offset_eq_of_setOffset {l l' : Lexer source} {offset : Nat}
    (h : l.setOffset offset = .ok l') : l'.offset = offset ∧ offset ≤ source.size := by
  unfold setOffset at h
  split at h
  next hle => cases h; exact ⟨rfl, hle⟩
  · cases h

/-- Moving over a character goes forward where one is left. -/
theorem offset_lt_of_bumpChar {l l' : Lexer source} (hleft : l.offset < source.size)
    (h : l.bumpChar = .ok l') : l.offset < l'.offset := by
  have hopen : l.isAtEnd = false := by simp [isAtEnd, hleft]
  simp only [bumpChar, hopen, Bool.false_eq_true, ↓reduceIte] at h
  have := widthAt_pos hleft
  have := (offset_eq_of_setOffset h).1
  omega

end Lexer

end TemplateScan
