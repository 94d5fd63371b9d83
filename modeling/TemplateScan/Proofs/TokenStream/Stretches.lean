import TemplateScan.Proofs.Template.Pieces
import TemplateScan.Proofs.TokenStream

/-! # Token streams lose nothing but markers

Where both kinds of token are offered, a text is a row of stretches: literal text, comments, and what
is passed over, which is opening markers and slashes that start no comment. What a stretch is, is told
by the text behind it (`Stretch.Stands`), so every text is such a row (`Stretch.exists_written`) and
only one (`Stretch.eq_of_written`). The tokens of a source are the tokens in its row
(`Source.tokens_everything`).
-/

namespace TemplateScan

namespace Outline

variable {offered : Offered} {front back inner text : List Char}

/-! ### What a text is read as -/

theorem lexeme_of_marker (offered : Offered) (back : List Char) :
    lexeme offered ('[' :: '%' :: back) = ⟨none, ['[', '%'], back⟩ := by
  have marked : ['[', '%'] <+: '[' :: '%' :: back := List.prefix_append ['[', '%'] back
  rw [lexeme, if_pos marked]
  rfl

theorem tokens_of_marker (offered : Offered) (offset : Nat) (back : List Char) :
    tokens offered offset (['[', '%'] ++ back) = tokens offered (offset + 2) back := by
  rw [tokens_of_ne_nil _ _ (by simp), List.cons_append, List.singleton_append, lexeme_of_marker]
  rfl

/-- Literal text is read up to the first directive or the end of the text. -/
theorem lexeme_of_literal (content : offered.content = true)
    (slashless : offered.comment = true → front.head? ≠ some '/') (nonempty : front ≠ [])
    (unmarked : ¬ ['[', '%'] <:+: front) (ends : back = [] ∨ ['[', '%'] <+: back) :
    lexeme offered (front ++ back) = ⟨some .content, front, back⟩ := by
  have absent := breakAt?_eq_none_iff_not_infix.mpr unmarked
  have found : breakAt? ['[', '%'] (front ++ back) = none ∧ back = [] ∨
      breakAt? ['[', '%'] (front ++ back) = some (front, back) := by
    rcases ends with rfl | opens
    · exact .inl ⟨by rwa [List.append_nil], rfl⟩
    · exact .inr (breakAt?_append_of_none (by decide) absent opens)
  have elsewhere : ¬ ['[', '%'] <+: front ++ back := by
    intro here
    rw [breakAt?_of_marked here] at found
    rcases found with ⟨impossible, _⟩ | early
    · cases impossible
    · cases early
      exact nonempty rfl
  have uncommented : ¬ (offered.comment = true ∧ (front ++ back).head? = some '/') := by
    rintro ⟨commented, slash⟩
    cases front with
    | nil => exact nonempty rfl
    | cons c front => exact slashless commented slash
  rw [lexeme, if_neg elsewhere, if_neg uncommented, if_pos content]
  rcases found with ⟨absent, rfl⟩ | found
  · rw [absent, List.append_nil]
  · rw [found]

theorem lexeme_of_opening (commented : offered.comment = true) (opening : ['/', '*'] <+: text) :
    lexeme offered text =
      match breakAt? ['*', '/'] (text.drop 2) with
      | none => .refused text
      | some (inner, after) =>
          ⟨some .comment, ['/', '*'] ++ inner ++ ['*', '/'], after.drop 2⟩ := by
  have unmarked : ¬ ['[', '%'] <+: text := by
    obtain ⟨rest, rfl⟩ := opening
    intro marked
    exact absurd (List.cons_prefix_cons.mp marked).1 (by decide)
  have slash : text.head? = some '/' := by
    obtain ⟨rest, rfl⟩ := opening
    rfl
  rw [lexeme, if_neg unmarked, if_pos ⟨commented, slash⟩]
  exact if_pos opening

/-- A slash that starts no comment is passed over. -/
theorem lexeme_of_slash (commented : offered.comment = true)
    (loose : ∀ inner rest, '/' :: back ≠ ['/', '*'] ++ inner ++ ['*', '/'] ++ rest) :
    lexeme offered ('/' :: back) = ⟨none, ['/'], back⟩ := by
  by_cases opening : ['/', '*'] <+: '/' :: back
  · rw [lexeme_of_opening commented opening]
    cases found : breakAt? ['*', '/'] (('/' :: back).drop 2) with
    | none => rfl
    | some parts => exact absurd (append_of_comment opening found) (loose parts.1 (parts.2.drop 2))
  · have unmarked : ¬ ['[', '%'] <+: '/' :: back := by
      intro marked
      exact absurd (List.cons_prefix_cons.mp marked).1 (by decide)
    rw [lexeme, if_neg unmarked, if_pos ⟨commented, rfl⟩, if_neg opening]
    rfl

end Outline

theorem Token.mapM_text_cons {source : Source} {offset : Nat} {kind : TokenKind}
    {later : List Token} {front back : List Char} {others : List String}
    (left : source.LeavesAt offset (front ++ back))
    (cut : later.mapM (fun token => token.text source) = .ok others) :
    (⟨kind, ⟨offset, offset + byteLength front⟩⟩ :: later : List Token).mapM
      (fun token => token.text source) = .ok (.ofList front :: others) := by
  rw [List.mapM_cons, Token.text, left.cut_eq, cut]
  rfl

/-- What a text is made of where both kinds of token are offered. -/
inductive Stretch where
  | content (text : List Char)
  /-- A comment: the text between its opening and its closing. -/
  | comment (inner : List Char)
  /-- An opening marker, which is passed over. -/
  | marker
  /-- A slash, which is passed over. -/
  | slash
deriving DecidableEq, Repr

namespace Stretch

variable {behind whole : List Char} {stretch other : Stretch} {row others : List Stretch}
  {offset : Nat} {source : Source}

/-- The characters of a stretch. -/
def text : Stretch → List Char
  | .content text => text
  | .comment inner => ['/', '*'] ++ inner ++ ['*', '/']
  | .marker => ['[', '%']
  | .slash => ['/']

/-- The kind of token that a stretch is. -/
def kind? : Stretch → Option TokenKind
  | .content _ => some .content
  | .comment _ => some .comment
  | .marker => none
  | .slash => none

/-- The characters of a row of stretches. -/
def join (row : List Stretch) : List Char :=
  row.flatMap text

@[simp] theorem join_nil : join [] = [] := rfl

@[simp] theorem join_cons (stretch : Stretch) (row : List Stretch) :
    join (stretch :: row) = stretch.text ++ join row := List.flatMap_cons

/-- The tokens of a row of stretches that stands at an offset. -/
def tokens (offset : Nat) : List Stretch → List Token
  | [] => []
  | stretch :: row =>
      let later := tokens (offset + byteLength stretch.text) row
      match stretch.kind? with
      | none => later
      | some kind => ⟨kind, ⟨offset, offset + byteLength stretch.text⟩⟩ :: later

/-- What a stretch asks of itself and of the text behind it. -/
def Stands (stretch : Stretch) (behind : List Char) : Prop :=
  match stretch with
  | .content text =>
      text ≠ [] ∧ text.head? ≠ some '/' ∧ ¬ ['[', '%'] <:+: text ∧
        (behind = [] ∨ ['[', '%'] <+: behind)
  | .comment inner => breakAt? ['*', '/'] (inner ++ ['*', '/']) = some (inner, ['*', '/'])
  | .marker => True
  | .slash => ∀ inner rest, '/' :: behind ≠ ['/', '*'] ++ inner ++ ['*', '/'] ++ rest

/-- A row of stretches each of which stands in front of the others. -/
def Written : List Stretch → Prop
  | [] => True
  | stretch :: row => stretch.Stands (join row) ∧ Written row

theorem Stands.text_ne_nil (stands : stretch.Stands behind) : stretch.text ≠ [] := by
  cases stretch with
  | content text => exact stands.1
  | comment inner => simp [Stretch.text]
  | marker => exact List.cons_ne_nil _ _
  | slash => exact List.cons_ne_nil _ _

/-- A stretch is what the text that starts with it is read as. -/
theorem Stands.lexeme_eq (stands : stretch.Stands behind) :
    Outline.lexeme .everything (stretch.text ++ behind) =
      ⟨stretch.kind?, stretch.text, behind⟩ := by
  cases stretch with
  | content text =>
      obtain ⟨nonempty, slashless, unmarked, ends⟩ := stands
      exact Outline.lexeme_of_literal rfl (fun _ => slashless) nonempty unmarked ends
  | comment inner =>
      obtain ⟨opening, ends⟩ := Outline.comment_written stands behind
      rw [Stretch.text, Outline.lexeme_of_opening rfl opening, ends]
      rfl
  | marker => exact Outline.lexeme_of_marker _ behind
  | slash => exact Outline.lexeme_of_slash rfl stands

/-! ### The row of a text -/

theorem slash_stands (unfinished : ['/', '*'] <+: '/' :: behind →
    breakAt? ['*', '/'] (('/' :: behind).drop 2) = none) : slash.Stands behind := by
  intro inner rest complete
  have opening : ['/', '*'] <+: '/' :: behind := by
    rw [complete, List.append_assoc, List.append_assoc]
    exact List.prefix_append _ _
  have absent := unfinished opening
  rw [complete] at absent
  exact not_prefix_of_breakAt?_eq_none absent (List.append_assoc inner _ rest)
    (List.prefix_append _ rest)

/-- Every text starts with a stretch. -/
theorem exists_stands (nonempty : whole ≠ []) :
    ∃ (stretch : Stretch) (behind : List Char),
      whole = stretch.text ++ behind ∧ stretch.Stands behind := by
  by_cases marked : ['[', '%'] <+: whole
  · obtain ⟨rest, rfl⟩ := marked
    exact ⟨.marker, rest, rfl, trivial⟩
  by_cases slash : whole.head? = some '/'
  · obtain ⟨rest, rfl⟩ := List.head?_eq_some_iff.mp slash
    by_cases opening : ['/', '*'] <+: '/' :: rest
    · cases found : breakAt? ['*', '/'] (('/' :: rest).drop 2) with
      | none => exact ⟨.slash, rest, rfl, slash_stands fun _ => found⟩
      | some parts =>
          obtain ⟨inner, after⟩ := parts
          exact ⟨.comment inner, after.drop 2, append_of_comment opening found, breakAt?_alone found⟩
    · exact ⟨.slash, rest, rfl, slash_stands fun here => absurd here opening⟩
  cases found : breakAt? ['[', '%'] whole with
  | none =>
      refine ⟨.content whole, [], (List.append_nil whole).symm, nonempty, slash, ?_, .inl rfl⟩
      exact breakAt?_eq_none_iff_not_infix.mp found
  | some parts =>
      obtain ⟨before, after⟩ := parts
      have filled := ne_nil_of_breakAt? found marked
      obtain ⟨rfl, opens⟩ := append_of_breakAt? found
      refine ⟨.content before, after, rfl, filled, ?_, ?_, .inr opens⟩
      · cases before with
        | nil => exact absurd rfl filled
        | cons c before => exact slash
      · have absent : breakAt? ['[', '%'] before = none :=
          breakAt?_eq_none_of_short found (Nat.lt_add_of_pos_right (by decide))
        exact breakAt?_eq_none_iff_not_infix.mp absent

/-- Every text is a row of stretches. -/
theorem exists_written (whole : List Char) : ∃ row, join row = whole ∧ Written row := by
  induction length : whole.length using Nat.strongRecOn generalizing whole with
  | _ bound ih =>
      by_cases empty : whole = []
      · exact ⟨[], empty.symm, trivial⟩
      · obtain ⟨stretch, behind, rfl, stands⟩ := exists_stands empty
        have shorter : behind.length < bound := by
          have := List.length_pos_iff.mpr stands.text_ne_nil
          rw [← length, List.length_append]
          omega
        obtain ⟨row, rfl, written⟩ := ih behind.length shorter behind rfl
        exact ⟨stretch :: row, join_cons stretch row, stands, written⟩

theorem eq_of_text_eq (kinds : stretch.kind? = other.kind?) (texts : stretch.text = other.text) :
    stretch = other := by
  cases stretch <;> cases other <;> simp_all [kind?, Stretch.text]

/-- **Texts are rows of stretches in one way only.** -/
theorem eq_of_written (left : Written row) (right : Written others)
    (same : join row = join others) : row = others := by
  refine eq_of_flatMap_eq ?_ ?_ ?_ left right same
  · intro stretch row written
    exact written.1.text_ne_nil
  · intro stretch row written
    exact written.2
  · intro stretch other row others written written' joined
    have whole : stretch.text ++ join row = other.text ++ join others := joined
    have read := written.1.lexeme_eq
    rw [whole, written'.1.lexeme_eq, Outline.Lexeme.mk.injEq] at read
    exact eq_of_text_eq read.1.symm read.2.1.symm

/-! ### The tokens of a row -/

/-- The tokens of a text are those of its row. -/
theorem tokens_of_written (written : Written row) (offset : Nat) :
    Outline.tokens .everything offset (join row) = tokens offset row := by
  induction row generalizing offset with
  | nil => exact Outline.tokens_nil _ offset
  | cons stretch row ih =>
      obtain ⟨stands, later⟩ := written
      have nonempty := List.append_ne_nil_of_left_ne_nil stands.text_ne_nil (join row)
      rw [join_cons, Outline.tokens_of_ne_nil _ offset nonempty, stands.lexeme_eq, ih later, tokens]
      cases stretch.kind? <;> rfl

/-- The texts of the tokens in a row. -/
def texts (row : List Stretch) : List String :=
  (row.filter fun stretch => stretch.kind?.isSome).map fun stretch => .ofList stretch.text

theorem texts_of_tokens (left : source.LeavesAt offset (join row)) :
    (tokens offset row).mapM (fun token => token.text source) = .ok (texts row) := by
  induction row generalizing offset with
  | nil => rfl
  | cons stretch row ih =>
      rw [join_cons] at left
      have later := ih left.drop
      rw [tokens]
      cases token : stretch.kind? with
      | none =>
          rw [texts, List.filter_cons_of_neg (by simp [token])]
          exact later
      | some kind =>
          rw [texts, List.filter_cons_of_pos (by simp [token])]
          exact Token.mapM_text_cons left later

end Stretch

end TemplateScan
