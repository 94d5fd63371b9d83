import TemplateScan.CommandLine.Invocation
import TemplateScan.Proofs.Template.Tiling

/-! # Filters that are read without a fault

The parts of a rule are told apart without the blanks at its ends, and then cut out of the rule with
these blanks. Where no blank stands at the start, the offsets that were found are those of characters
of the rule, so that every part can be cut out (`FilterRule.exists_ofText`). A verbose invocation
that is given no filter uses one of this kind.
-/

namespace TemplateScan

variable {source : Source} {start stop : Nat} {text rest cs behind tail : List Char} {mark : Char}

/-- No blank stands at the start. -/
def Unindented (rule : String) : Prop :=
  rule.toList.head?.any isBlank = false

instance (rule : String) : Decidable (Unindented rule) :=
  inferInstanceAs (Decidable (rule.toList.head?.any isBlank = false))

theorem trimEnds_isPrefix (unindented : cs.head?.any isBlank = false) : trimEnds cs <+: cs := by
  have started : trimStart cs = cs := by
    cases cs with
    | nil => rfl
    | cons c cs => exact List.dropWhile_cons_of_neg (by simpa using unindented)
  rw [trimEnds, started]
  have ended : trimStart cs.reverse <:+ cs.reverse := List.dropWhile_suffix isBlank
  rwa [← List.reverse_prefix, List.reverse_reverse] at ended

/-- What is left at the first character that ends a part of a rule. -/
theorem Source.LeavesAt.at_mark {p : Char → Bool} (left : source.LeavesAt start (cs ++ tail))
    (met : cs.dropWhile p = mark :: behind) :
    source.LeavesAt (start + byteLength (cs.takeWhile p)) (mark :: (behind ++ tail)) ∧
      p mark = false := by
  constructor
  · rw [← @List.takeWhile_append_dropWhile _ p cs, met, List.append_assoc] at left
    exact left.drop
  · have unpassed := List.head?_dropWhile_not p cs
    rw [met] at unpassed
    exact unpassed

theorem Source.LeavesAt.exists_cut (left : source.LeavesAt start text)
    (right : source.LeavesAt stop rest) (ordered : start ≤ stop) :
    ∃ part, source.cut ⟨start, stop⟩ = .ok part :=
  ⟨_, if_pos ⟨ordered, left.isBoundary, right.isBoundary⟩⟩

/-- A reading that comes to a rule, or to the reason why there is none. -/
def Faultless {α : Type} (reading : RuleReading α) : Prop :=
  ∃ outcome, reading.run = .ok outcome

theorem faultless_of_cut {α β : Type} {part : Checked α} {value : α} {next : α → RuleReading β}
    (cut : part = .ok value) (faultless : Faultless (next value)) :
    Faultless (liftM part >>= next) := by
  subst cut
  exact faultless

namespace FilterRule

variable {rule : FilterRule}

theorem faultless_withThreshold (left : source.LeavesAt start text) :
    Faultless (rule.withThreshold source start) := by
  obtain ⟨word, cut⟩ := left.exists_cut source.leavesAt_size left.le_size
  apply faultless_of_cut cut
  split
  · exact ⟨_, rfl⟩
  split
  · exact ⟨_, rfl⟩
  · exact ⟨_, rfl⟩

theorem faultless_readEnd (left : source.LeavesAt start (cs ++ tail)) :
    Faultless (rule.readEnd source start cs) := by
  rw [readEnd.eq_def]
  split
  · exact ⟨_, rfl⟩
  · exact faultless_withThreshold left.tail
  · exact ⟨_, rfl⟩

theorem faultless_readField (left : source.LeavesAt start (cs ++ tail)) :
    Faultless (rule.readField source start cs) := by
  rw [readField]
  split
  · exact ⟨_, rfl⟩
  next mark behind met =>
    obtain ⟨atMark, closing⟩ := left.at_mark met
    obtain rfl : mark = '\x7d' := by simpa using closing
    obtain ⟨text, cut⟩ := left.exists_cut atMark (Nat.le_add_right _ _)
    apply faultless_of_cut cut
    by_cases empty : text = ""
    · simp only [if_pos empty]
      exact ⟨_, rfl⟩
    simp only [if_neg empty]
    split
    · exact ⟨_, rfl⟩
    split
    · exact faultless_readEnd atMark.tail.tail
    · exact ⟨_, rfl⟩

theorem faultless_readBrackets (left : source.LeavesAt start (cs ++ tail)) :
    Faultless (rule.readBrackets source start cs) := by
  rw [readBrackets]
  split
  · exact ⟨_, rfl⟩
  next mark behind met =>
    obtain ⟨atMark, ending⟩ := left.at_mark met
    obtain ⟨name, cut⟩ := left.exists_cut atMark (Nat.le_add_right _ _)
    apply faultless_of_cut cut
    split
    · next closing =>
        subst closing
        exact faultless_readEnd atMark.tail
    · next other =>
        obtain rfl : mark = '\x7b' := by simpa [other] using ending
        exact faultless_readField atMark.tail

theorem faultless_readTarget {rule : String} (parts : rule.toList = cs ++ tail) :
    Faultless (readTarget rule cs) := by
  have left : (Source.ofText rule).LeavesAt 0 (cs ++ tail) := parts ▸ Source.leavesAt_zero _
  rw [readTarget]
  split
  · exact ⟨_, rfl⟩
  next mark behind met =>
    obtain ⟨atMark, ending⟩ := left.at_mark met
    rw [Nat.zero_add] at atMark
    obtain ⟨target, cut⟩ := left.exists_cut atMark (Nat.zero_le _)
    apply faultless_of_cut cut
    split
    · next equals =>
        subst equals
        exact faultless_withThreshold atMark.tail
    · next other =>
        obtain rfl : mark = '[' := by simpa [other] using ending
        exact faultless_readBrackets atMark.tail

/-- A rule without a blank at its start is read without a fault. -/
theorem exists_ofText {rule : String} (unindented : Unindented rule) :
    ∃ outcome, ofText rule = .ok outcome := by
  change Faultless (read rule)
  obtain ⟨tail, parts⟩ := trimEnds_isPrefix unindented
  rw [read]
  split
  · exact ⟨_, rfl⟩
  · next rest trimmed =>
      have left := (Source.ofText rule).leavesAt_zero
      change Source.LeavesAt _ _ rule.toList at left
      rw [← parts, trimmed] at left
      exact faultless_readBrackets left.tail
  · next first rest _ trimmed =>
      split
      · exact faultless_readTarget (trimmed ▸ parts).symm
      · exact ⟨_, rfl⟩

end FilterRule

theorem LogFilter.exists_ofText {text : String}
    (unindented : ∀ rule ∈ LogFilter.ruleTexts text, Unindented rule) :
    ∃ filter complaints, LogFilter.ofText text = .ok (filter, complaints) := by
  obtain ⟨readings, read⟩ : ∃ readings, (LogFilter.ruleTexts text).mapM
      (fun rule => do return (rule, ← FilterRule.ofText rule)) = .ok readings := by
    apply mapM_isOk
    intro rule member
    obtain ⟨outcome, read⟩ := FilterRule.exists_ofText (unindented rule member)
    exact ⟨_, by rw [read]; rfl⟩
  rw [LogFilter.ofText, read]
  exact ⟨_, _, rfl⟩

theorem unindented_verboseFilter : ∀ rule ∈ LogFilter.ruleTexts verboseFilter, Unindented rule := by
  decide

end TemplateScan
