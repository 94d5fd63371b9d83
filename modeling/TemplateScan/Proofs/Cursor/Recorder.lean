import TemplateScan.Cursor.Recorder
import TemplateScan.Proofs.Recognizer

/-! # The discipline of an attempt

A recorder writes down the calls of a recognizer and moves on even behind the end of input, so what
it has written down tells whether a recognizer keeps its promises to a host. The calls are those of
the script of the text (`Recognizer.script_eq`), which never moves further than the text reaches
(`Recognizer.moves_script_le`) and ends where it commits to an end or one character behind that
(`Recognizer.tokenScript_ends`).
-/

namespace TemplateScan

open ScriptCall (perform perform_append moves moves_append moves_replicate)

/-- The line of a script that makes a call. -/
def CursorCall.toScript : CursorCall → ScriptCall
  | .advance => .advance
  | .skip => .skip
  | .markEnd => .markEnd
  | .setResult kind => .setResult kind

namespace Recognizer

variable {text : List Char} {kind : TokenKind}

/-! ### How far a script moves -/

theorem moves_closeScript_le (text : List Char) : moves (closeScript text).2 ≤ text.length := by
  rw [closeScript]
  cases found : breakAt? ['*', '/'] text with
  | none => exact Nat.le_of_eq (moves_replicate rfl _)
  | some parts =>
      obtain ⟨before, after⟩ := parts
      obtain ⟨rfl, closing⟩ := append_of_breakAt? found
      have wide := closing.length_le
      dsimp only
      rw [moves_append, moves_replicate rfl, List.length_append]
      exact Nat.add_le_add_left wide _

theorem moves_commentScript_le (slash : text.head? = some '/') :
    moves (commentScript text).2 ≤ text.length := by
  rw [commentScript]
  by_cases opening : ['/', '*'] <+: text
  · obtain ⟨inner, rfl⟩ := opening
    have inside := moves_closeScript_le inner
    rw [if_pos (List.prefix_append _ _), moves_append, List.length_append]
    exact Nat.add_le_add_left inside 2
  · obtain ⟨rest, rfl⟩ := List.head?_eq_some_iff.mp slash
    rw [if_neg opening]
    exact Nat.le_add_left 1 rest.length

theorem moves_takeCalls (text : List Char) : moves (text.flatMap takeCalls) = text.length := by
  induction text with
  | nil => rfl
  | cons c text ih =>
      have first : moves (takeCalls c) = 1 := by
        rw [takeCalls]
        split <;> rfl
      rw [List.flatMap_cons, moves_append, first, ih, List.length_cons, Nat.add_comm]

theorem moves_contentScript_le (text : List Char) :
    moves (contentScript false text).2 ≤ text.length := by
  rw [contentScript]
  cases found : breakAt? ['[', '%'] text with
  | none =>
      cases text with
      | nil => exact Nat.le_refl _
      | cons c text =>
          change moves (List.flatMap takeCalls _ ++ [.markEnd]) ≤ _
          rw [moves_append, moves_takeCalls]
          exact Nat.le_refl _
  | some parts =>
      obtain ⟨before, after⟩ := parts
      obtain ⟨rfl, opening⟩ := append_of_breakAt? found
      have wide := opening.length_le
      dsimp only
      rw [moves_append, moves_takeCalls, List.length_append]
      exact Nat.add_le_add_left (Nat.le_of_succ_le wide) _

theorem moves_tokenScript_le (offered : Offered) (text : List Char) :
    moves (tokenScript offered text).2 ≤ text.length := by
  rw [tokenScript]
  by_cases slash : offered.comment = true ∧ text.head? = some '/'
  · rw [if_pos slash]
    exact moves_commentScript_le slash.2
  · rw [if_neg slash]
    cases offered.content with
    | true => exact moves_contentScript_le text
    | false => exact Nat.zero_le _

/-- The number of blanks that are skipped in front of a token. -/
def blanks (offered : Offered) (text : List Char) : Nat :=
  if offered.insideDirective then (text.takeWhile isBlank).length else 0

/-- A script skips blanks and then attempts a token behind them. -/
theorem script_eq (offered : Offered) (text : List Char) :
    script offered text =
      ((tokenScript offered (text.drop (blanks offered text))).1,
        List.replicate (blanks offered text) .skip ++
          (tokenScript offered (text.drop (blanks offered text))).2) := by
  rw [script, blanks]
  cases offered.insideDirective with
  | false => rfl
  | true =>
      have behind : text.drop (text.takeWhile isBlank).length = text.dropWhile isBlank := by
        have front := List.prefix_iff_eq_append.mp (List.takeWhile_prefix isBlank (l := text))
        have whole := @List.takeWhile_append_dropWhile _ isBlank text
        exact List.append_cancel_left (front.trans whole.symm)
      rw [if_pos rfl, if_pos rfl, behind]

theorem blanks_le (offered : Offered) (text : List Char) : blanks offered text ≤ text.length := by
  rw [blanks]
  split
  · exact (List.takeWhile_prefix isBlank).length_le
  · exact Nat.zero_le _

theorem isBlank_of_lt_blanks {offered : Offered} {index : Nat}
    (early : index < blanks offered text) :
    offered.insideDirective = true ∧ ∃ c, text[index]? = some c ∧ isBlank c = true := by
  rw [blanks] at early
  split at early
  · next inside =>
      have blank := List.all_eq_true.mp (@List.all_takeWhile _ isBlank text) _
        (List.getElem_mem early)
      rw [(List.takeWhile_prefix isBlank).getElem early] at blank
      exact ⟨inside, _, List.getElem?_eq_getElem _, blank⟩
  · exact absurd early (Nat.not_lt_zero _)

/-- A script moves no further than its text reaches. -/
theorem moves_script_le (offered : Offered) (text : List Char) :
    moves (script offered text).2 ≤ text.length := by
  have behind := moves_tokenScript_le offered (text.drop (blanks offered text))
  have bound := blanks_le offered text
  rw [List.length_drop] at behind
  rw [script_eq, moves_append, moves_replicate rfl]
  omega

/-! ### How a script ends -/

/-- The calls for a token that is not empty end with a commitment to its end. The opening of a
directive behind literal text has then been entered by one character. -/
def Ends (text : List Char) (kind : TokenKind) (calls : List ScriptCall) : Prop :=
  ∃ earlier, 0 < moves earlier ∧
    (calls = earlier ++ [.markEnd] ∨
      kind = .content ∧ calls = earlier ++ [.markEnd, .advance] ∧
        ['[', '%'] <+: text.drop (moves earlier))

theorem commentScript_ends (verdict : (commentScript text).1 = some kind) :
    kind = .comment ∧ Ends text kind (commentScript text).2 := by
  rw [commentScript] at verdict ⊢
  split at verdict
  · next opening =>
      rw [if_pos opening]
      rw [closeScript] at verdict ⊢
      cases found : breakAt? ['*', '/'] (text.drop 2) with
      | none =>
          rw [found] at verdict
          cases verdict
      | some parts =>
          rw [found] at verdict
          cases verdict
          refine ⟨rfl, [.markEnd, .advance, .advance] ++
            List.replicate (parts.1.length + 2) .advance, ?_, .inl ?_⟩
          · rw [moves_append]
            exact Nat.lt_add_right _ Nat.two_pos
          · exact (List.append_assoc _ _ _).symm
  · cases verdict

theorem contentScript_ends (verdict : (contentScript false text).1 = some kind) :
    kind = .content ∧ Ends text kind (contentScript false text).2 := by
  rw [contentScript] at verdict ⊢
  cases found : breakAt? ['[', '%'] text with
  | none =>
      cases text with
      | nil =>
          rw [found] at verdict
          cases verdict
      | cons c text =>
          rw [found] at verdict
          cases verdict
          refine ⟨rfl, (c :: text).flatMap takeCalls, ?_, .inl rfl⟩
          rw [moves_takeCalls]
          exact Nat.succ_pos _
  | some parts =>
      rw [found] at verdict
      obtain ⟨before, after⟩ := parts
      cases before with
      | nil => cases verdict
      | cons c before =>
          cases verdict
          obtain ⟨rfl, opening⟩ := append_of_breakAt? found
          refine ⟨rfl, (c :: before).flatMap takeCalls, ?_, .inr ⟨rfl, rfl, ?_⟩⟩
          · rw [moves_takeCalls]
            exact Nat.succ_pos _
          · rwa [moves_takeCalls, List.drop_left]

theorem tokenScript_ends {offered : Offered} (verdict : (tokenScript offered text).1 = some kind) :
    offered.accepts kind = true ∧ Ends text kind (tokenScript offered text).2 := by
  rw [tokenScript] at verdict ⊢
  split at verdict
  · next slash =>
      obtain ⟨rfl, ends⟩ := commentScript_ends verdict
      rw [if_pos slash]
      exact ⟨slash.1, ends⟩
  · next other =>
      rw [if_neg other]
      split at verdict
      · next content =>
          obtain ⟨rfl, ends⟩ := contentScript_ends verdict
          rw [if_pos content]
          exact ⟨content, ends⟩
      · cases verdict

end Recognizer

open Recognizer (IsStride script blanks)

namespace Recorder

variable {r after : Recorder} {calls more : List ScriptCall}

/-! ### Recorders as hosts of a text -/

/-- A recorder at the start of some characters. -/
def fresh (chars : List Char) : Recorder :=
  { chars := chars.toArray }

theorem atEnd_iff : r.atEnd = true ↔ r.chars.size ≤ r.probe := by
  rw [atEnd, decide_eq_true_eq]

theorem ahead_eq (r : Recorder) : Cursor.ahead r = r.chars.toList.drop r.probe := by
  fun_induction Cursor.ahead r with
  | case1 r ended =>
      have ended : r.chars.toList.length ≤ r.probe := atEnd_iff.mp ended
      rw [List.drop_eq_nil_of_le ended]
  | case2 r opened ih =>
      have inside : r.probe < r.chars.toList.length := by
        apply Nat.not_le.mp
        intro ended
        exact opened (atEnd_iff.mpr ended)
      have seen : Cursor.lookahead r = r.chars.toList[r.probe] := by
        have here : r.chars[r.probe]? = some r.chars.toList[r.probe] :=
          Array.getElem?_eq_getElem inside
        simp only [Cursor.lookahead, lookahead, here, Option.getD_some]
      rw [ih, seen, List.drop_eq_getElem_cons inside]
      rfl

instance : LawfulCursor Recorder where
  lookahead_of_atEnd r ended := by
    have ended : r.chars.size ≤ r.probe := atEnd_iff.mp ended
    simp only [Cursor.lookahead, lookahead, Array.getElem?_eq_none ended, Option.getD_none]
  atEnd_advance r ended := by
    have ended : r.chars.size ≤ r.probe := atEnd_iff.mp ended
    exact atEnd_iff.mpr (Nat.le_succ_of_le ended)
  ahead_skip r := by
    rw [ahead_eq, ahead_eq]
    rfl
  ahead_markEnd r := by
    rw [ahead_eq, ahead_eq]
    rfl

theorem recognize_eq (offered : Offered) (chars : List Char) :
    Recognizer.recognize offered (fresh chars) =
      ((script offered chars).1, perform (fresh chars) (script offered chars).2) := by
  have ahead : Cursor.ahead (fresh chars) = chars := ahead_eq _
  rw [Recognizer.recognize_eq_script, ahead]

/-! ### What calls leave behind -/

/-- Number of characters that were skipped. -/
def skipped (r : Recorder) : Nat :=
  r.calls.toList.count .skip

/-- The calls from one recorder to another have been written down, and the probe has gone along. -/
structure Records (r : Recorder) (calls : List ScriptCall) (after : Recorder) : Prop where
  chars : after.chars = r.chars
  probe : after.probe = r.probe + moves calls
  skipped : after.skipped = r.skipped + calls.count .skip
  calls : after.calls.toList.map CursorCall.toScript =
    r.calls.toList.map CursorCall.toScript ++ calls

theorem Records.trans {mid : Recorder} (first : Records r calls mid)
    (second : Records mid more after) : Records r (calls ++ more) after where
  chars := second.chars.trans first.chars
  probe := by rw [second.probe, first.probe, moves_append, Nat.add_assoc]
  skipped := by rw [second.skipped, first.skipped, List.count_append, Nat.add_assoc]
  calls := by rw [second.calls, first.calls, List.append_assoc]

theorem records_run {call : ScriptCall} (own : call = .skip ∨ IsStride call) (r : Recorder) :
    Records r [call] (call.run r).2 := by
  have written : ∀ made : CursorCall, (r.calls.push made).toList.map CursorCall.toScript =
      r.calls.toList.map CursorCall.toScript ++ [made.toScript] := by
    intro made
    rw [Array.toList_push, List.map_append]
    rfl
  have counted : ∀ made : CursorCall, (r.calls.push made).toList.count .skip =
      r.skipped + [made].count .skip := by
    intro made
    rw [Array.toList_push, List.count_append]
    rfl
  rcases own with rfl | rfl | rfl
  · exact ⟨rfl, rfl, counted .skip, written .skip⟩
  · exact ⟨rfl, rfl, counted .advance, written .advance⟩
  · exact ⟨rfl, rfl, counted .markEnd, written .markEnd⟩

theorem records_perform (own : ∀ call ∈ calls, call = .skip ∨ IsStride call) (r : Recorder) :
    Records r calls (perform r calls) := by
  induction calls generalizing r with
  | nil => exact ⟨rfl, rfl, rfl, (List.append_nil _).symm⟩
  | cons call calls ih =>
      have first := records_run (own call List.mem_cons_self) r
      exact first.trans (ih (fun other member => own other (List.mem_cons_of_mem call member)) _)

/-- The ends committed to are in order, and the probe is not in front of them. -/
structure Ordered (r : Recorder) : Prop where
  marks : r.marks.toList.Pairwise (· ≤ ·)
  marks_le : ∀ mark ∈ r.marks.toList, mark ≤ r.probe

theorem Ordered.move (ordered : Ordered r) (call : CursorCall) : Ordered (r.move call) where
  marks := ordered.marks
  marks_le mark member := Nat.le_succ_of_le (ordered.marks_le mark member)

theorem Ordered.markEnd (ordered : Ordered r) : Ordered r.markEnd where
  marks := by
    rw [Recorder.markEnd, Array.toList_push, List.pairwise_append]
    refine ⟨ordered.marks, List.pairwise_singleton _ _, ?_⟩
    intro mark member last here
    rw [List.mem_singleton.mp here]
    exact ordered.marks_le mark member
  marks_le := by
    intro mark member
    rw [Recorder.markEnd, Array.toList_push] at member
    rcases List.mem_append.mp member with earlier | last
    · exact ordered.marks_le mark earlier
    · exact Nat.le_of_eq (List.mem_singleton.mp last)

theorem Ordered.perform (ordered : Ordered r)
    (own : ∀ call ∈ calls, call = .skip ∨ IsStride call) : Ordered (perform r calls) :=
  Recognizer.perform_kept (fun _ ordered => ordered.move .skip)
    (fun _ ordered => ordered.move .advance) (fun _ ordered => ordered.markEnd) own ordered

theorem ordered_fresh (chars : List Char) : Ordered (fresh chars) where
  marks := .nil
  marks_le _ member := nomatch member

/-! ### Discipline -/

/-- The recorder of some characters after the calls that are written down. -/
def replay (chars : List Char) (calls : List CursorCall) : Recorder :=
  perform (fresh chars) (calls.map CursorCall.toScript)

/-- What a recognizer promises to a host: where it moves, where it skips, how it commits to ends,
and what an accepted token then is. -/
structure Disciplined (chars : List Char) (offered : Offered) (kind? : Option TokenKind)
    (r : Recorder) : Prop where
  /-- All that was done is written down. -/
  replayed : replay chars r.calls.toList = r
  /-- No kind of token is reported. -/
  silent : ∀ kind, .setResult kind ∉ r.calls.toList
  /-- No move is made at the end of input. -/
  inside : ∀ before call later, r.calls.toList = before ++ call :: later →
    call = .advance ∨ call = .skip → (replay chars before).atEnd = false
  probe_le : r.probe ≤ chars.length
  /-- Only blanks are skipped, in front of all other calls, and only where comments are offered
  without content. -/
  skips : ∀ before later, r.calls.toList = before ++ .skip :: later →
    offered.comment = true ∧ offered.content = false ∧ (∀ call ∈ before, call = .skip) ∧
      isBlank (replay chars before).lookahead = true
  marks : r.marks.toList.Pairwise (· ≤ ·)
  accepted : ∀ kind, kind? = some kind → offered.accepts kind = true ∧
    ∃ last, r.marks.back? = some last ∧ r.skipped < last ∧
      (r.probe = last ∨ kind = .content ∧ r.probe = last + 1 ∧
        chars[last]? = some '[' ∧ chars[last + 1]? = some '%')

section Attempt

variable {chars : List Char} {offered : Offered}

theorem records_script (chars : List Char) (offered : Offered) :
    Records (fresh chars) (script offered chars).2
      (perform (fresh chars) (script offered chars).2) :=
  records_perform (Recognizer.script_moves offered chars) _

/-- What is known of a recorder in the middle of an attempt. -/
theorem records_replay {before later : List CursorCall}
    (parts : (script offered chars).2 = (before ++ later).map CursorCall.toScript) :
    Records (fresh chars) (before.map CursorCall.toScript) (replay chars before) := by
  apply records_perform
  intro call member
  apply Recognizer.script_moves offered chars
  rw [parts, List.map_append]
  exact List.mem_append_left _ member

theorem atEnd_replay {before later : List CursorCall} {call : CursorCall}
    (parts : (script offered chars).2 = (before ++ call :: later).map CursorCall.toScript)
    (move : call = .advance ∨ call = .skip) : (replay chars before).atEnd = false := by
  have records := records_replay parts
  have bound := Recognizer.moves_script_le offered chars
  have one : 0 < moves ((call :: later).map CursorCall.toScript) := by
    refine List.countP_pos_iff.mpr ⟨call.toScript, List.mem_map_of_mem List.mem_cons_self, ?_⟩
    rcases move with rfl | rfl <;> rfl
  rw [parts, List.map_append, moves_append] at bound
  rw [atEnd, records.chars, records.probe, decide_eq_false_iff_not]
  change ¬ chars.length ≤ 0 + _
  omega

/-- Where a skip is made, nothing but skips has been done before. -/
theorem skips_of_split {count : Nat} {strides : List ScriptCall}
    (strided : ∀ call ∈ strides, IsStride call)
    (parts : List.replicate count .skip ++ strides = calls ++ .skip :: more) :
    calls.length < count ∧ ∀ call ∈ calls, call = .skip := by
  have stray : .skip ∉ strides := by
    intro member
    rcases strided _ member with impossible | impossible <;> cases impossible
  rcases List.append_eq_append_iff.mp parts with ⟨gap, _, rfl⟩ | ⟨gap, skips, tail⟩
  · exact absurd (List.mem_append_right gap List.mem_cons_self) stray
  · cases gap with
    | nil =>
        rw [List.nil_append] at tail
        exact absurd (tail ▸ List.mem_cons_self) stray
    | cons call gap =>
        have width := congrArg List.length skips
        rw [List.length_replicate, List.length_append, List.length_cons] at width
        refine ⟨by omega, ?_⟩
        intro call member
        apply List.eq_of_mem_replicate (n := count)
        rw [skips]
        exact List.mem_append_left _ member

theorem skips_replay {before later : List CursorCall}
    (parts : (script offered chars).2 = (before ++ .skip :: later).map CursorCall.toScript) :
    offered.comment = true ∧ offered.content = false ∧ (∀ call ∈ before, call = .skip) ∧
      isBlank (replay chars before).lookahead = true := by
  have records := records_replay parts
  rw [Recognizer.script_eq, List.map_append] at parts
  obtain ⟨early, skips⟩ := skips_of_split (Recognizer.tokenScript_strides offered _) parts
  rw [List.length_map] at early
  obtain ⟨inside, c, here, blank⟩ := Recognizer.isBlank_of_lt_blanks early
  have only : ∀ call ∈ before, call = .skip := by
    intro call member
    have same := skips _ (List.mem_map_of_mem member)
    cases call <;> cases same
    rfl
  have place : (replay chars before).probe = before.length := by
    have count : moves (before.map CursorCall.toScript) = before.length := by
      rw [List.eq_replicate_of_mem skips, moves_replicate rfl, List.length_map]
    rw [records.probe, count]
    exact Nat.zero_add _
  rw [Offered.insideDirective, Bool.and_eq_true, Bool.not_eq_true'] at inside
  refine ⟨inside.1, inside.2, only, ?_⟩
  have seen : (replay chars before).lookahead = c := by
    rw [lookahead, records.chars, place, fresh, List.getElem?_toArray, here, Option.getD_some]
  rw [seen]
  exact blank

theorem skipped_script (chars : List Char) (offered : Offered) :
    (perform (fresh chars) (script offered chars).2).skipped = blanks offered chars := by
  have unskipped : .skip ∉ (Recognizer.tokenScript offered
      (chars.drop (blanks offered chars))).2 := by
    intro member
    rcases Recognizer.tokenScript_strides offered _ _ member with impossible | impossible <;>
      cases impossible
  rw [(records_script chars offered).skipped, Recognizer.script_eq, List.count_append,
    List.count_replicate_self, List.count_eq_zero.mpr unskipped]
  exact Nat.zero_add _

/-- The end last committed to, and the probe, after the calls for an accepted token. -/
theorem ends_perform {kind : TokenKind} (verdict : (script offered chars).1 = some kind)
    (made : r = perform (fresh chars) (script offered chars).2) :
    ∃ last, r.marks.back? = some last ∧ r.skipped < last ∧
      (r.probe = last ∨ kind = .content ∧ r.probe = last + 1 ∧
        chars[last]? = some '[' ∧ chars[last + 1]? = some '%') := by
  have skipped := skipped_script chars offered
  have probe := (records_script chars offered).probe
  rw [← made] at skipped probe
  rw [Recognizer.script_eq] at verdict made probe
  rw [moves_append, moves_replicate rfl] at probe
  have probe : r.probe = 0 + _ := probe
  obtain ⟨_, earlier, filled, calls | ⟨content, calls, opening⟩⟩ :=
    Recognizer.tokenScript_ends verdict
  · rw [calls, ← List.append_assoc, perform_append] at made
    rw [calls, moves_append] at probe
    refine ⟨r.probe, ?_, by omega, .inl rfl⟩
    rw [made]
    exact Array.back?_push
  · rw [calls, ← List.append_assoc, perform_append] at made
    rw [calls, moves_append] at probe
    have probe : r.probe = 0 + (_ + (_ + 1)) := probe
    generalize perform (fresh chars) _ = mid at made
    have passed : r.probe = mid.probe + 1 := by
      rw [made]
      rfl
    have last : mid.probe = blanks offered chars + moves earlier := by omega
    rw [List.drop_drop] at opening
    obtain ⟨rest, opens⟩ := opening
    refine ⟨blanks offered chars + moves earlier, ?_, by omega, .inr ⟨content, by omega, ?_, ?_⟩⟩
    · rw [made, ← last]
      exact Array.back?_push
    · rw [← Nat.add_zero (_ + _), ← List.getElem?_drop, ← opens]
      rfl
    · rw [← List.getElem?_drop, ← opens]
      rfl

theorem disciplined_script (chars : List Char) (offered : Offered) :
    Disciplined chars offered (script offered chars).1
      (perform (fresh chars) (script offered chars).2) := by
  have records := records_script chars offered
  generalize made : perform (fresh chars) (script offered chars).2 = r at records
  have written : r.calls.toList.map CursorCall.toScript = (script offered chars).2 := records.calls
  have split : ∀ {before later : List CursorCall}, r.calls.toList = before ++ later →
      (script offered chars).2 = (before ++ later).map CursorCall.toScript := by
    intro before later parts
    rw [← parts, written]
  refine {
    replayed := ?_
    silent := ?_
    inside := fun before call later parts => atEnd_replay (split parts)
    probe_le := ?_
    skips := fun before later parts => skips_replay (split parts)
    marks := ?_
    accepted := ?_ }
  · rw [replay, written, made]
  · intro kind member
    have named := List.mem_map_of_mem (f := CursorCall.toScript) member
    rw [written] at named
    rcases Recognizer.script_moves offered chars _ named with impossible | impossible | impossible
    all_goals cases impossible
  · have bound := Recognizer.moves_script_le offered chars
    rw [records.probe]
    exact Nat.le_trans (Nat.le_of_eq (Nat.zero_add _)) bound
  · rw [← made]
    exact ((ordered_fresh chars).perform (Recognizer.script_moves offered chars)).marks
  · intro kind verdict
    have offers := verdict
    rw [Recognizer.script_eq] at offers
    exact ⟨(Recognizer.tokenScript_ends offers).1, ends_perform verdict made.symm⟩

end Attempt

end Recorder

/-- **Attempts are disciplined.** On any characters and for any kinds of token that are offered, an
attempt keeps its promises to the host. One that reports the kind makes the same calls, and then one
more that names the kind if there is a token. -/
theorem Recognizer.disciplined_recognize (chars : List Char) (offered : Offered) :
    Recorder.Disciplined chars offered (recognize offered (Recorder.fresh chars)).1
        (recognize offered (Recorder.fresh chars)).2 ∧
      scan offered (Recorder.fresh chars) =
        match recognize offered (Recorder.fresh chars) with
        | (some kind, r) => (true, { r with calls := r.calls.push (.setResult kind) })
        | (none, r) => (false, r) := by
  constructor
  · rw [Recorder.recognize_eq]
    exact Recorder.disciplined_script chars offered
  · rw [scan]
    cases recognize offered (Recorder.fresh chars) with
    | mk kind? r => cases kind? <;> rfl

example : (Recognizer.recognize (.only .content) (Recorder.fresh "[a[%".toList)).2.marks =
    #[0, 2] := by
  decide +kernel

end TemplateScan
