import TemplateScan.Proofs.TokenStream.Stretches

/-! # Token streams of comments

Where comments alone are offered, nothing but the opening of a comment counts: what stands in front
of it is passed over, however that is done (`Outline.tokens_to_opening`). Behind an opening that is
never closed there is no comment at all (`Outline.tokens_of_unclosed`). So the tokens of a source are
its comments from left to right, each as short as it can be (`Source.tokens_only_comment`).
-/

namespace TemplateScan

namespace Outline

variable {c : Char} {text : List Char} {offset : Nat}

/-- The comments of a text that stands at an offset. The first one starts where a comment first
opens and ends with the first closing behind that opening, and the others are looked for behind it.
-/
def comments (offset : Nat) (text : List Char) : List Span :=
  match _opens : breakAt? ['/', '*'] text with
  | none => []
  | some (before, after) =>
      match _closes : breakAt? ['*', '/'] (after.drop 2) with
      | none => []
      | some (inner, behind) =>
          let start := offset + byteLength before
          let stop := start + 2 + byteLength inner + 2
          ⟨start, stop⟩ :: comments stop (behind.drop 2)
termination_by text.length
decreasing_by
  obtain ⟨parts, opening⟩ := append_of_breakAt? _opens
  have widths := congrArg List.length (append_of_comment opening _closes)
  rw [parts]
  simp only [List.length_append, List.length_cons, List.length_drop] at widths ⊢
  omega

/-! ### What is passed over -/

theorem tokens_of_refused {offered : Offered}
    (refused : lexeme offered (c :: text) = .refused (c :: text)) (offset : Nat) :
    tokens offered offset (c :: text) = tokens offered (offset + c.utf8Size) text := by
  rw [tokens_of_ne_nil _ _ (List.cons_ne_nil c text), refused]
  rfl

theorem lexeme_of_other (unmarked : ¬ ['[', '%'] <+: text) (uncommented : ¬ ['/', '*'] <+: text) :
    lexeme (.only .comment) text = .refused text := by
  rw [lexeme, if_neg unmarked, if_neg uncommented]
  split
  · rfl
  · exact if_neg Bool.false_ne_true

/-- An opening marker is passed over as if by its characters, and so is all that opens no comment. -/
theorem tokens_cons_of_uncommented (uncommented : ¬ ['/', '*'] <+: c :: text) (offset : Nat) :
    tokens (.only .comment) offset (c :: text) =
      tokens (.only .comment) (offset + c.utf8Size) text := by
  by_cases marked : ['[', '%'] <+: c :: text
  · obtain ⟨rfl, follows⟩ := pair_isPrefix_cons_iff.mp marked
    obtain ⟨rest, rfl⟩ := List.head?_eq_some_iff.mp follows
    have sign : lexeme (.only .comment) ('%' :: rest) = .refused ('%' :: rest) := by
      apply lexeme_of_other
      all_goals
        intro here
        exact absurd (List.cons_prefix_cons.mp here).1 (by decide)
    rw [tokens_of_refused sign]
    exact tokens_of_marker _ offset rest
  · exact tokens_of_refused (lexeme_of_other marked uncommented) offset

theorem tokens_to_opening (offset : Nat) (text : List Char) :
    tokens (.only .comment) offset text =
      match breakAt? ['/', '*'] text with
      | none => []
      | some (before, after) => tokens (.only .comment) (offset + byteLength before) after := by
  induction text generalizing offset with
  | nil => exact tokens_nil _ offset
  | cons c text ih =>
      by_cases opening : ['/', '*'] <+: c :: text
      · rw [breakAt?_of_marked opening]
        rfl
      · rw [tokens_cons_of_uncommented opening, ih, breakAt?_cons_of_unmarked opening]
        cases breakAt? ['/', '*'] text with
        | none => rfl
        | some parts => simp only [Option.map_some, byteLength_cons, Nat.add_assoc]

theorem tokens_of_unclosed (offset : Nat) (absent : breakAt? ['*', '/'] (text.drop 2) = none) :
    tokens (.only .comment) offset text = [] := by
  induction text generalizing offset with
  | nil => exact tokens_nil _ offset
  | cons c text ih =>
      have later : breakAt? ['*', '/'] (text.drop 2) = none := by
        refine breakAt?_eq_none_iff_not_infix.mpr ?_
        intro inside
        have behind := (List.drop_suffix_drop_left text (Nat.le_succ 1)).isInfix
        exact breakAt?_eq_none_iff_not_infix.mp absent (inside.trans behind)
      by_cases opening : ['/', '*'] <+: c :: text
      · have refused : lexeme (.only .comment) (c :: text) = .refused (c :: text) := by
          rw [lexeme_of_opening rfl opening, absent]
        rw [tokens_of_refused refused, ih _ later]
      · rw [tokens_cons_of_uncommented opening, ih _ later]

theorem tokens_eq_comments (offset : Nat) (text : List Char) :
    tokens (.only .comment) offset text = (comments offset text).map (.mk .comment) := by
  fun_induction comments offset text with
  | case1 offset text absent => rw [tokens_to_opening, absent]; rfl
  | case2 offset text before after opens absent =>
      rw [tokens_to_opening, opens]
      exact tokens_of_unclosed _ absent
  | case3 offset text before after opens inner behind closes start stop ih =>
      obtain ⟨_, opening⟩ := append_of_breakAt? opens
      have nonempty : after ≠ [] := by
        rintro rfl
        cases List.prefix_nil.mp opening
      rw [tokens_to_opening, opens, List.map_cons, ← ih]
      dsimp only
      rw [tokens_of_ne_nil _ _ nonempty, lexeme_of_opening rfl opening, closes]
      dsimp only [Lexeme.token?, Option.map_some]
      rw [byteLength_comment, ← Nat.add_assoc, ← Nat.add_assoc]
      rfl

end Outline

end TemplateScan
