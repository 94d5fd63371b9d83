import TemplateScan.Lexer.Progress
import TemplateScan.Template.Walk

/-! # Walks move forward

Every turn after which a walk goes on has moved the host forward, from a place where input is left.
-/

namespace TemplateScan

namespace Walk

variable {source : Source}

theorem offset_lt_of_scan_eq_some {w w' : Walk source} {offered : Offered} {token : Token}
    (h : w.scan offered = (some token, w')) :
    w.lexer.offset < source.size ∧ w.lexer.offset < w'.lexer.offset := by
  cases hscan : w.lexer.scan offered with
  | mk token? lexer =>
      simp only [scan, hscan, note, Prod.mk.injEq] at h
      obtain ⟨rfl, rfl⟩ := h
      exact Lexer.offset_lt_of_scan_eq_some hscan

theorem offset_eq_of_scan_eq_none {w w' : Walk source} {offered : Offered}
    (h : w.scan offered = (none, w')) : w'.lexer.offset = w.lexer.offset := by
  cases hscan : w.lexer.scan offered with
  | mk token? lexer =>
      simp only [scan, hscan, note, Prod.mk.injEq] at h
      obtain ⟨rfl, rfl⟩ := h
      exact Lexer.offset_eq_of_scan_eq_none hscan

theorem offset_eq_of_moveTo {w w' : Walk source} {offset : Nat}
    (h : w.moveTo offset = .ok w') : w'.lexer.offset = offset := by
  cases hset : w.lexer.setOffset offset with
  | error fault => simp [moveTo, hset, bind, Except.bind] at h
  | ok lexer =>
      simp only [moveTo, hset, bind, Except.bind, pure, Except.pure, Except.ok.injEq] at h
      subst h
      exact (Lexer.offset_eq_of_setOffset hset).1

theorem offset_lt_of_moveOver {w w' : Walk source} (hleft : w.lexer.offset < source.size)
    (h : w.moveOver = .ok w') : w.lexer.offset < w'.lexer.offset := by
  cases hbump : w.lexer.bumpChar with
  | error fault => simp [moveOver, hbump, bind, Except.bind] at h
  | ok lexer =>
      simp only [moveOver, hbump, bind, Except.bind, pure, Except.pure, Except.ok.injEq] at h
      subst h
      exact Lexer.offset_lt_of_bumpChar hleft hbump

theorem offset_lt_of_map_moveOver {w w' : Walk source} (hleft : w.lexer.offset < source.size)
    (h : Turn.next <$> w.moveOver = .ok (.next w')) : w.lexer.offset < w'.lexer.offset := by
  cases hmove : w.moveOver with
  | error fault => simp [hmove, Functor.map, Except.map] at h
  | ok moved =>
      simp only [hmove, Functor.map, Except.map, Except.ok.injEq, Turn.next.injEq] at h
      subst h
      exact offset_lt_of_moveOver hleft hmove

theorem offset_lt_of_openDirective {w w' : Walk source}
    (h : w.openDirective = .ok (.next w')) : w.lexer.offset < w'.lexer.offset := by
  unfold openDirective at h
  dsimp only at h
  split at h <;> (
    simp only [bind, Except.bind] at h
    split at h
    · cases h
    next moved hmove =>
      simp only [pure, Except.pure, note, Except.ok.injEq, Turn.next.injEq] at h
      subst h
      have := offset_eq_of_moveTo hmove
      simp only [this]
      omega)

theorem offset_lt_of_closeDirective {w w' : Walk source} {d : OpenDirective} {width : Nat}
    (hwidth : 0 < width) (h : w.closeDirective d width = .ok (.next w')) :
    w.lexer.offset < w'.lexer.offset := by
  unfold closeDirective at h
  simp only [bind, Except.bind] at h
  split at h
  · cases h
  next moved hmove =>
    simp only [pure, Except.pure, note, push, Except.ok.injEq, Turn.next.injEq] at h
    subst h
    have := offset_eq_of_moveTo hmove
    simp only [this]
    omega

theorem offset_lt_of_rescanSlash {w w' : Walk source} (hleft : w.lexer.offset < source.size)
    (h : w.rescanSlash = .ok (.next w')) : w.lexer.offset < w'.lexer.offset := by
  unfold rescanSlash at h
  split at h
  next token scanned hscan =>
    simp only [Except.ok.injEq, Turn.next.injEq] at h
    subst h
    exact (offset_lt_of_scan_eq_some hscan).2
  next scanned hscan =>
    have hoffset := offset_eq_of_scan_eq_none hscan
    change scanned.lexer.offset = w.lexer.offset at hoffset
    have := offset_lt_of_map_moveOver (by omega) h
    omega

theorem offset_lt_of_stepString {w w' : Walk source} {quote : UInt8}
    (h : w.stepString quote = .ok (.next w')) : w.lexer.offset < w'.lexer.offset := by
  unfold stepString at h
  simp only [bind, Except.bind] at h
  split at h
  · cases h
  next stop? hstop =>
    split at h
    next stop =>
      cases hmove : w.moveTo stop with
      | error fault => simp [hmove] at h
      | ok moved =>
          simp only [hmove, pure, Except.pure, Except.ok.injEq, Turn.next.injEq] at h
          subst h
          have := offset_eq_of_moveTo hmove
          have := Source.lt_of_stringEnd hstop
          omega
    · simp [pure, Except.pure] at h

theorem pos_of_closeWidth? {w : Walk source} {width : Nat} (h : w.closeWidth? = some width) :
    0 < width := by
  unfold closeWidth? at h
  split at h
  · cases h; omega
  · split at h
    · cases h; omega
    · cases h

theorem offset_lt_of_stepCode {w w' : Walk source} {d : OpenDirective}
    (h : w.stepCode d = .ok (.next w')) :
    w.lexer.offset < source.size ∧ w.lexer.offset < w'.lexer.offset := by
  unfold stepCode at h
  split at h
  · simp at h
  next c hpeek =>
    have hleft := Source.lt_size_of_charAt? hpeek
    refine ⟨hleft, ?_⟩
    split at h
    next width hwidth => exact offset_lt_of_closeDirective (pos_of_closeWidth? hwidth) h
    · split at h
      · simp at h
      · split at h
        · exact offset_lt_of_stepString h
        · exact offset_lt_of_map_moveOver hleft h

theorem offset_lt_of_stepInside {w w' : Walk source} {d : OpenDirective}
    (h : w.stepInside d = .ok (.next w')) :
    w.lexer.offset < source.size ∧ w.lexer.offset < w'.lexer.offset := by
  unfold stepInside at h
  split at h
  next token scanned hscan =>
    have hprogress := offset_lt_of_scan_eq_some hscan
    simp only [Except.ok.injEq, Turn.next.injEq] at h
    subst h
    exact hprogress
  next scanned hscan =>
    simp only [bind, Except.bind] at h
    split at h
    · cases h
    next moved hmove =>
      have hoffset := offset_eq_of_scan_eq_none hscan
      have hskip := source.le_skipBlanks scanned.lexer.offset
      have hmoved := offset_eq_of_moveTo hmove
      have hcode := offset_lt_of_stepCode h
      omega

theorem offset_lt_of_stepOutside {w w' : Walk source}
    (h : w.stepOutside = .ok (.next w')) :
    w.lexer.offset < source.size ∧ w.lexer.offset < w'.lexer.offset := by
  unfold stepOutside at h
  split at h
  · simp at h
  next hend =>
    have hleft : w.lexer.offset < source.size := by
      simpa [Lexer.isAtEnd] using hend
    refine ⟨hleft, ?_⟩
    split at h
    next token scanned hscan =>
      simp only [Except.ok.injEq, Turn.next.injEq] at h
      subst h
      exact (offset_lt_of_scan_eq_some hscan).2
    next scanned hscan =>
      have hoffset := offset_eq_of_scan_eq_none hscan
      rw [← hoffset]
      split at h
      · exact offset_lt_of_openDirective h
      · split at h
        · simp at h
        · exact offset_lt_of_rescanSlash (by omega) h

/-- A turn after which the walk goes on starts where input is left and moves the host forward. -/
theorem offset_lt_of_step {w w' : Walk source} (h : w.step = .ok (.next w')) :
    w.lexer.offset < source.size ∧ w.lexer.offset < w'.lexer.offset := by
  unfold step at h
  split at h
  · exact offset_lt_of_stepOutside h
  · exact offset_lt_of_stepInside h

end Walk

end TemplateScan
