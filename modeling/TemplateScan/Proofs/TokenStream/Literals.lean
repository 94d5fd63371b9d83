import TemplateScan.Proofs.TokenStream.Stretches

/-! # Token streams of literal text

Where content alone is offered, the opening markers of directives part a text, and what stands
between them is its tokens (`Source.tokens_only_content`). The markers are taken from left to right
(`Outline.between`); none is left in a piece, and with markers between them again the pieces are the
text.
-/

namespace TemplateScan

namespace Outline

variable {c : Char} {text piece back : List Char} {pieces : List (List Char)} {offset : Nat}

/-- The pieces of a text between the opening markers in it, taken from left to right. -/
def between : List Char → List (List Char)
  | [] => [[]]
  | '[' :: '%' :: text => [] :: between text
  | c :: text => (between text).modifyHead (c :: ·)

theorem between_ne_nil (text : List Char) : between text ≠ [] := by
  fun_induction between text with
  | case1 => exact List.cons_ne_nil _ _
  | case2 => exact List.cons_ne_nil _ _
  | case3 c text _ ih => rwa [Ne, List.modifyHead_eq_nil_iff]

theorem intercalate_modifyHead (marker : List Char) (nonempty : pieces ≠ []) :
    marker.intercalate (pieces.modifyHead (c :: ·)) = c :: marker.intercalate pieces := by
  cases pieces with
  | nil => exact absurd rfl nonempty
  | cons piece later => cases later <;> simp

/-- With the markers between them again, the pieces are the text. -/
theorem intercalate_between (text : List Char) :
    ['[', '%'].intercalate (between text) = text := by
  fun_induction between text with
  | case1 => rfl
  | case2 text ih =>
      rw [List.intercalate_cons_of_ne_nil (between_ne_nil text), ih]
      rfl
  | case3 c text _ ih => rw [intercalate_modifyHead _ (between_ne_nil text), ih]

example : between ['é', '[', '[', '%', '[', '%'] = [['é', '['], [], []] := by decide

theorem isPrefix_intercalate (marker piece : List Char) (later : List (List Char)) :
    piece <+: marker.intercalate (piece :: later) := by
  cases later with
  | nil => exact ⟨[], by rw [List.intercalate_singleton, List.append_nil]⟩
  | cons next later =>
      rw [List.intercalate_cons_cons, List.append_assoc]
      exact List.prefix_append _ _

/-- No marker is left in a piece. -/
theorem not_infix_of_mem_between (member : piece ∈ between text) : ¬ ['[', '%'] <:+: piece := by
  fun_induction between text generalizing piece with
  | case1 =>
      rw [List.mem_singleton.mp member]
      decide
  | case2 text ih =>
      rcases List.mem_cons.mp member with rfl | later
      · decide
      · exact ih later
  | case3 c text unmarked ih =>
      have whole := intercalate_between text
      cases parted : between text with
      | nil => exact absurd parted (between_ne_nil text)
      | cons first later =>
          rw [parted] at member whole ih
          rcases List.mem_cons.mp member with rfl | member
          · rw [List.infix_cons_iff]
            rintro (here | inside)
            · -- the piece is the start of the text, so the marker would stand there
              have starts := isPrefix_intercalate ['[', '%'] first later
              rw [whole] at starts
              have marked := here.trans (List.cons_prefix_cons.mpr ⟨rfl, starts⟩)
              obtain ⟨bracket, sign⟩ := pair_isPrefix_cons_iff.mp marked
              obtain ⟨rest, rfl⟩ := List.head?_eq_some_iff.mp sign
              exact unmarked rest bracket rfl
            · exact ih List.mem_cons_self inside
          · exact ih (List.mem_cons_of_mem first member)

/-- The tokens of pieces that stand at an offset with markers between them. A piece that is empty
makes none. -/
def literals (offset : Nat) : List (List Char) → List Token
  | [] => []
  | piece :: pieces =>
      let later := literals (offset + byteLength piece + 2) pieces
      if piece = [] then later else ⟨.content, ⟨offset, offset + byteLength piece⟩⟩ :: later

theorem tokens_of_piece (offset : Nat) (unmarked : ¬ ['[', '%'] <:+: piece)
    (ends : back = [] ∨ ['[', '%'] <+: back) :
    tokens (.only .content) offset (piece ++ back) =
      let later := tokens (.only .content) (offset + byteLength piece) back
      if piece = [] then later else ⟨.content, ⟨offset, offset + byteLength piece⟩⟩ :: later := by
  by_cases empty : piece = []
  · subst empty
    rfl
  · have nonempty := List.append_ne_nil_of_left_ne_nil empty back
    have read : lexeme (.only .content) (piece ++ back) = ⟨some .content, piece, back⟩ :=
      lexeme_of_literal rfl nofun empty unmarked ends
    rw [tokens_of_ne_nil _ _ nonempty, read, if_neg empty]
    rfl

theorem tokens_of_pieces (offset : Nat) (unmarked : ∀ piece ∈ pieces, ¬ ['[', '%'] <:+: piece) :
    tokens (.only .content) offset (['[', '%'].intercalate pieces) = literals offset pieces := by
  induction pieces generalizing offset with
  | nil => exact tokens_nil _ offset
  | cons piece later ih =>
      have first := unmarked piece List.mem_cons_self
      have others := ih (offset + byteLength piece + 2) fun other member =>
        unmarked other (List.mem_cons_of_mem piece member)
      cases later with
      | nil =>
          have read := tokens_of_piece offset first (.inl rfl)
          rw [List.append_nil, tokens_nil] at read
          rw [List.intercalate_singleton, read]
          rfl
      | cons next later =>
          have opens := List.prefix_append ['[', '%'] (['[', '%'].intercalate (next :: later))
          rw [List.intercalate_cons_cons, List.append_assoc,
            tokens_of_piece offset first (.inr opens), tokens_of_marker, others]
          rfl

theorem texts_of_literals {source : Source}
    (left : source.LeavesAt offset (['[', '%'].intercalate pieces)) :
    (literals offset pieces).mapM (fun token => token.text source) =
      .ok ((pieces.filter (· ≠ [])).map .ofList) := by
  induction pieces generalizing offset with
  | nil => rfl
  | cons piece later ih =>
      have others : (literals (offset + byteLength piece + 2) later).mapM
          (fun token => token.text source) = .ok ((later.filter (· ≠ [])).map .ofList) := by
        cases later with
        | nil => rfl
        | cons next later =>
            rw [List.intercalate_cons_cons, List.append_assoc] at left
            exact ih left.drop.drop
      obtain ⟨back, parts⟩ := isPrefix_intercalate ['[', '%'] piece later
      rw [← parts] at left
      rw [literals]
      by_cases empty : piece = []
      · rw [if_pos empty, List.filter_cons_of_neg (by simp [empty])]
        exact others
      · rw [if_neg empty, List.filter_cons_of_pos (by simp [empty])]
        exact Token.mapM_text_cons left others

end Outline

end TemplateScan
