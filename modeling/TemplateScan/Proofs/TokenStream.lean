import TemplateScan.Proofs.Lexer
import TemplateScan.Proofs.Template.Outline
import TemplateScan.TokenStream

/-! # The tokens of a text

The tokens of a text are read off the text alone: each place of it starts a token of an offered
kind or is passed over, an opening marker as a whole and anything else by one character
(`Outline.lexeme`). Blanks in front of a comment are nothing special there: an attempt that skips
them and steps over them one by one come to the same (`Outline.tokens_dropBlanks`). A token stream
gives these tokens (`Source.tokens_eq_outline`).
-/

namespace TemplateScan

namespace Outline

variable {offered : Offered} {offset : Nat} {text : List Char}

/-- What a text starts with: a token of an offered kind, or nothing but text to pass over. -/
structure Lexeme where
  kind? : Option TokenKind
  front : List Char
  back : List Char
deriving DecidableEq, Repr

/-- The first character of a text, which starts no token. -/
def Lexeme.refused (text : List Char) : Lexeme :=
  ⟨none, text.take 1, text.drop 1⟩

/-- What a text starts with where some kinds of token are offered. -/
def lexeme (offered : Offered) (text : List Char) : Lexeme :=
  if ['[', '%'] <+: text then ⟨none, ['[', '%'], text.drop 2⟩
  else if offered.comment = true ∧ text.head? = some '/' then
    if ['/', '*'] <+: text then
      match breakAt? ['*', '/'] (text.drop 2) with
      | none => .refused text
      | some (inner, after) =>
          ⟨some .comment, ['/', '*'] ++ inner ++ ['*', '/'], after.drop 2⟩
    else .refused text
  else if offered.content = true then
    match breakAt? ['[', '%'] text with
    | none => ⟨some .content, text, []⟩
    | some (before, after) => ⟨some .content, before, after⟩
  else .refused text

/-- All that a text can start with. -/
theorem lexeme_cases (offered : Offered) (text : List Char) :
    ['[', '%'] <+: text ∧ lexeme offered text = ⟨none, ['[', '%'], text.drop 2⟩ ∨
      ¬ ['[', '%'] <+: text ∧ (lexeme offered text = .refused text ∨
        (∃ inner after, ['/', '*'] <+: text ∧
          breakAt? ['*', '/'] (text.drop 2) = some (inner, after) ∧
          lexeme offered text = ⟨some .comment, ['/', '*'] ++ inner ++ ['*', '/'], after.drop 2⟩) ∨
        lexeme offered text = ⟨some .content, text, []⟩ ∨
        ∃ before after, breakAt? ['[', '%'] text = some (before, after) ∧
          lexeme offered text = ⟨some .content, before, after⟩) := by
  unfold lexeme
  split
  · next marked => exact .inl ⟨marked, rfl⟩
  · next unmarked =>
      refine .inr ⟨unmarked, ?_⟩
      split
      · split
        · next commented =>
            split
            · exact .inl rfl
            · next inner after found => exact .inr (.inl ⟨inner, after, commented, found, rfl⟩)
        · exact .inl rfl
      · split
        · split
          · exact .inr (.inr (.inl rfl))
          · next before after found => exact .inr (.inr (.inr ⟨before, after, found, rfl⟩))
        · exact .inl rfl

/-- A text is what it starts with and what is behind that. -/
theorem parts_of_lexeme (offered : Offered) (nonempty : text ≠ []) :
    text = (lexeme offered text).front ++ (lexeme offered text).back ∧
      (lexeme offered text).front ≠ [] := by
  obtain ⟨marked, made⟩ | ⟨unmarked, made | ⟨inner, after, commented, found, made⟩ | made |
    ⟨before, after, found, made⟩⟩ := lexeme_cases offered text
  all_goals rw [made]
  · exact ⟨(List.prefix_iff_eq_append.mp marked).symm, List.cons_ne_nil _ _⟩
  · cases text with
    | nil => exact absurd rfl nonempty
    | cons c text => exact ⟨rfl, List.cons_ne_nil _ _⟩
  · exact ⟨append_of_comment commented found, by simp⟩
  · exact ⟨(List.append_nil text).symm, nonempty⟩
  · exact ⟨(append_of_breakAt? found).1, ne_nil_of_breakAt? found unmarked⟩

/-- Text that starts no token is passed over by a marker or by a character. -/
theorem front_of_refused (refused : (lexeme offered text).kind? = none) :
    (lexeme offered text).front = if ['[', '%'] <+: text then ['[', '%'] else text.take 1 := by
  obtain ⟨marked, made⟩ | ⟨unmarked, made | ⟨inner, after, _, _, made⟩ | made |
    ⟨before, after, _, made⟩⟩ := lexeme_cases offered text
  · rw [if_pos marked, made]
  · rw [if_neg unmarked, made]
    rfl
  all_goals
    rw [made] at refused
    cases refused

/-- The token that a text at an offset starts with. -/
def Lexeme.token? (offset : Nat) (lexeme : Lexeme) : Option Token :=
  lexeme.kind?.map fun kind => ⟨kind, ⟨offset, offset + byteLength lexeme.front⟩⟩

/-- The tokens of a text that stands at an offset. -/
def tokens (offered : Offered) (offset : Nat) (text : List Char) : List Token :=
  if _nonempty : text ≠ [] then
    ((lexeme offered text).token? offset).toList ++
      tokens offered (offset + byteLength (lexeme offered text).front) (lexeme offered text).back
  else []
termination_by text.length
decreasing_by
  obtain ⟨parts, filled⟩ := parts_of_lexeme offered _nonempty
  have := List.length_pos_iff.mpr filled
  have total := congrArg List.length parts
  rw [List.length_append] at total
  omega

theorem tokens_nil (offered : Offered) (offset : Nat) : tokens offered offset [] = [] := by
  rw [tokens, dif_neg (not_not_intro rfl)]

theorem tokens_of_ne_nil (offered : Offered) (offset : Nat) (nonempty : text ≠ []) :
    tokens offered offset text =
      ((lexeme offered text).token? offset).toList ++
        tokens offered (offset + byteLength (lexeme offered text).front)
          (lexeme offered text).back := by
  rw [tokens, dif_pos nonempty]

/-! ### Blanks in front of a comment -/

theorem lexeme_of_blank {c : Char} (blank : isBlank c = true) :
    lexeme (.only .comment) (c :: text) = .refused (c :: text) := by
  have unmarked : ¬ ['[', '%'] <+: c :: text := by
    intro marked
    obtain rfl := (List.cons_prefix_cons.mp marked).1
    cases blank
  have slashless : ¬ ((Offered.only .comment).comment = true ∧ (c :: text).head? = some '/') := by
    rintro ⟨_, slash⟩
    cases slash
    cases blank
  rw [lexeme, if_neg unmarked, if_neg slashless]
  rfl

/-- Where comments alone are offered, blanks are passed over one by one. -/
theorem tokens_dropBlanks (offset : Nat) (text : List Char) :
    tokens (.only .comment) offset text =
      tokens (.only .comment) (offset + byteLength (text.takeWhile isBlank))
        (text.dropWhile isBlank) := by
  induction text generalizing offset with
  | nil => rfl
  | cons c text ih =>
      by_cases blank : isBlank c = true
      · rw [tokens_of_ne_nil _ _ (List.cons_ne_nil c text), lexeme_of_blank blank,
          List.takeWhile_cons_of_pos blank, List.dropWhile_cons_of_pos blank, byteLength_cons,
          ← Nat.add_assoc]
        exact ih (offset + c.utf8Size)
      · rw [List.takeWhile_cons_of_neg blank, List.dropWhile_cons_of_neg blank]
        rfl

/-! ### Attempts and lexemes -/

theorem commentAt?_eq_token? (commented : offered.comment = true) (slash : text.head? = some '/') :
    commentAt? offset text = (lexeme offered text).token? offset := by
  have unmarked : ¬ ['[', '%'] <+: text := by
    rintro ⟨rest, rfl⟩
    exact absurd (Option.some.inj slash) (by decide)
  rw [lexeme, if_neg unmarked, if_pos ⟨commented, slash⟩]
  by_cases opening : ['/', '*'] <+: text
  · rw [commentAt?_of_opening opening, if_pos opening]
    cases breakAt? ['*', '/'] (text.drop 2) with
    | none => rfl
    | some parts =>
        rw [Lexeme.token?, byteLength_comment, ← Nat.add_assoc, ← Nat.add_assoc]
        rfl
  · rw [commentAt?_of_no_opening opening, if_neg opening]
    rfl

theorem contentAt?_eq_token? (content : offered.content = true) (nonempty : text ≠ [])
    (slashless : ¬ (offered.comment = true ∧ text.head? = some '/')) :
    contentAt? offset text = (lexeme offered text).token? offset := by
  by_cases marked : ['[', '%'] <+: text
  · rw [contentAt?_of_marked marked, lexeme, if_pos marked]
    rfl
  rw [lexeme, if_neg marked, if_neg slashless, if_pos content]
  cases found : breakAt? ['[', '%'] text with
  | none => exact contentAt?_of_absent nonempty found
  | some parts => exact contentAt?_of_found found marked

theorem token?_of_unoffered (content : offered.content = false)
    (slashless : ¬ (offered.comment = true ∧ text.head? = some '/')) :
    (lexeme offered text).token? offset = none := by
  rw [lexeme]
  by_cases marked : ['[', '%'] <+: text
  · rw [if_pos marked]
    rfl
  · rw [if_neg marked, if_neg slashless, content]
    rfl

theorem tokenAt?_eq_token? (nonempty : text ≠ []) (other : offered ≠ .only .comment) :
    tokenAt? offered offset text = (lexeme offered text).token? offset := by
  rcases offered with ⟨_ | _, _ | _⟩
  · exact (token?_of_unoffered rfl (fun both => absurd both.1 Bool.false_ne_true)).symm
  · exact absurd rfl other
  · exact contentAt?_eq_token? rfl nonempty fun both => absurd both.1 Bool.false_ne_true
  · rw [tokenAt?]
    by_cases slash : text.head? = some '/'
    · rw [if_pos slash]
      exact commentAt?_eq_token? rfl slash
    · rw [if_neg slash]
      exact contentAt?_eq_token? rfl nonempty fun both => slash both.2

theorem tokenAt?_only_comment (offset : Nat) (text : List Char) :
    tokenAt? (.only .comment) offset text =
      (lexeme (.only .comment) (text.dropWhile isBlank)).token?
        (offset + byteLength (text.takeWhile isBlank)) := by
  change commentAt? _ _ = _
  by_cases slash : (text.dropWhile isBlank).head? = some '/'
  · exact commentAt?_eq_token? rfl slash
  · have other : ¬ ['/', '*'] <+: text.dropWhile isBlank := by
      rintro ⟨rest, parts⟩
      rw [← parts] at slash
      exact slash rfl
    rw [commentAt?_of_no_opening other, token?_of_unoffered rfl fun both => slash both.2]

/-- An attempt comes to the token that the text starts with, or else to a comment that it starts
with behind blanks. -/
theorem tokenAt?_cases (offset : Nat) (nonempty : text ≠ []) :
    tokenAt? offered offset text = (lexeme offered text).token? offset ∨
      ∃ token, offered = .only .comment ∧ tokenAt? offered offset text = some token ∧
        (lexeme offered (text.dropWhile isBlank)).token?
          (offset + byteLength (text.takeWhile isBlank)) = some token := by
  by_cases comments : offered = .only .comment
  · subst comments
    cases text with
    | nil => exact absurd rfl nonempty
    | cons c text =>
        by_cases blank : isBlank c = true
        · have behind := tokenAt?_only_comment offset (c :: text)
          cases attempted : tokenAt? (.only .comment) offset (c :: text) with
          | none => exact .inl (by rw [lexeme_of_blank blank]; rfl)
          | some token => exact .inr ⟨token, rfl, rfl, behind.symm.trans attempted⟩
        · left
          rw [tokenAt?_only_comment, List.takeWhile_cons_of_neg blank,
            List.dropWhile_cons_of_neg blank]
          rfl
  · exact .inl (tokenAt?_eq_token? nonempty comments)

end Outline

namespace TokenStream

variable {source : Source} {s : TokenStream source} {offered : Offered} {text : List Char}

theorem step_of_accepted {token : Token} (accepted : (s.lexer.scan offered).1 = some token) :
    ∃ next, s.step offered = .ok next ∧ next.lexer = (s.lexer.scan offered).2 ∧
      next.tokens = s.tokens.push token := by
  unfold step
  generalize s.lexer.scan offered = outcome at accepted ⊢
  obtain ⟨token?, after⟩ := outcome
  cases accepted
  exact ⟨_, rfl, rfl, rfl⟩

theorem step_of_refused {moved : Lexer source} (refused : (s.lexer.scan offered).1 = none)
    (passed : stepOver (s.lexer.scan offered).2 = .ok moved) :
    ∃ next, s.step offered = .ok next ∧ next.lexer = moved ∧ next.tokens = s.tokens := by
  unfold step
  generalize s.lexer.scan offered = outcome at refused passed ⊢
  obtain ⟨token?, after⟩ := outcome
  cases refused
  dsimp only
  rw [passed]
  exact ⟨_, rfl, rfl, rfl⟩

theorem stepOver_eq {l : Lexer source} (left : source.LeavesAt l.offset text)
    (nonempty : text ≠ []) :
    ∃ moved, stepOver l = .ok moved ∧ moved.offset =
      l.offset + byteLength (if ['[', '%'] <+: text then ['[', '%'] else text.take 1) := by
  unfold stepOver
  by_cases marked : ['[', '%'] <+: text
  · rw [if_pos ((Lexer.startsWith_iff left Marker.directiveOpen).mpr marked), if_pos marked]
    have bound := (left.drop_marker marked).le_size
    exact ⟨_, Lexer.setOffset_eq bound, rfl⟩
  · have elsewhere : ¬ l.startsWith Marker.directiveOpen = true := by
      rw [Lexer.startsWith_iff left]
      exact marked
    rw [if_neg elsewhere, if_neg marked]
    cases text with
    | nil => exact absurd rfl nonempty
    | cons c text => exact ⟨_, Lexer.bumpChar_eq left, rfl⟩

/-- What a step leads to from an offset at which `text` is left: less text is left, and the tokens
of that text are still to come. -/
structure InStep (offered : Offered) (made : List Token) (offset : Nat) (text : List Char)
    (next : TokenStream source) (back : List Char) : Prop where
  shorter : back.length < text.length
  leaves : source.LeavesAt next.lexer.offset back
  tokens : next.tokens.toList ++ Outline.tokens offered next.lexer.offset back =
    made ++ Outline.tokens offered offset text

namespace InStep

variable {made : List Token} {offset : Nat} {next : TokenStream source} {back : List Char}

theorem of_lexeme (left : source.LeavesAt offset text) (nonempty : text ≠ [])
    (moved : next.lexer.offset = offset + byteLength (Outline.lexeme offered text).front)
    (taken : next.tokens.toList =
      made ++ ((Outline.lexeme offered text).token? offset).toList) :
    InStep offered made offset text next (Outline.lexeme offered text).back := by
  obtain ⟨parts, filled⟩ := Outline.parts_of_lexeme offered nonempty
  refine ⟨?_, ?_, ?_⟩
  · have := List.length_pos_iff.mpr filled
    have total := congrArg List.length parts
    rw [List.length_append] at total
    omega
  · rw [parts] at left
    rw [moved]
    exact left.drop
  · rw [taken, moved, List.append_assoc, ← Outline.tokens_of_ne_nil offered _ nonempty]

theorem of_token {token : Token} (left : source.LeavesAt offset text) (nonempty : text ≠ [])
    (token_eq : (Outline.lexeme offered text).token? offset = some token)
    (moved : next.lexer.offset = token.span.stop) (taken : next.tokens.toList = made ++ [token]) :
    InStep offered made offset text next (Outline.lexeme offered text).back := by
  refine .of_lexeme left nonempty ?_ ?_
  · obtain ⟨kind, _, rfl⟩ := Option.map_eq_some_iff.mp token_eq
    exact moved
  · rw [taken, token_eq]
    rfl

theorem of_dropBlanks (inStep : InStep (.only .comment) made
      (offset + byteLength (text.takeWhile isBlank)) (text.dropWhile isBlank) next back) :
    InStep (.only .comment) made offset text next back where
  shorter := by
    have total := congrArg List.length (@List.takeWhile_append_dropWhile _ isBlank text)
    have := inStep.shorter
    rw [List.length_append] at total
    omega
  leaves := inStep.leaves
  tokens := by
    rw [Outline.tokens_dropBlanks offset text]
    exact inStep.tokens

end InStep

theorem step_of_token {token : Token} (left : source.LeavesAt s.lexer.offset text)
    (attempted : tokenAt? offered s.lexer.offset text = some token) :
    ∃ next, s.step offered = .ok next ∧ next.lexer.offset = token.span.stop ∧
      next.tokens = s.tokens.push token := by
  obtain ⟨taken, moved⟩ := Lexer.scan_of_leavesAt left offered
  rw [attempted] at taken moved
  obtain ⟨next, stepped, lexer, tokens⟩ := step_of_accepted taken
  exact ⟨next, stepped, by rw [lexer, moved]; rfl, tokens⟩

theorem step_of_no_token (left : source.LeavesAt s.lexer.offset text) (nonempty : text ≠ [])
    (attempted : tokenAt? offered s.lexer.offset text = none) :
    ∃ next, s.step offered = .ok next ∧ next.tokens = s.tokens ∧ next.lexer.offset =
      s.lexer.offset + byteLength (if ['[', '%'] <+: text then ['[', '%'] else text.take 1) := by
  obtain ⟨refused, stayed⟩ := Lexer.scan_of_leavesAt left offered
  rw [attempted] at refused stayed
  have stayed : (s.lexer.scan offered).2.offset = s.lexer.offset := stayed
  rw [← stayed] at left ⊢
  obtain ⟨moved, passed, offset⟩ := stepOver_eq left nonempty
  obtain ⟨next, stepped, rfl, tokens⟩ := step_of_refused refused passed
  exact ⟨next, stepped, tokens, offset⟩

theorem step_inStep (offered : Offered) (left : source.LeavesAt s.lexer.offset text)
    (nonempty : text ≠ []) :
    ∃ next back, s.step offered = .ok next ∧
      InStep offered s.tokens.toList s.lexer.offset text next back := by
  rcases @Outline.tokenAt?_cases offered text s.lexer.offset nonempty with
    attempted | ⟨token, rfl, attempted, behind⟩
  · cases token_eq : (Outline.lexeme offered text).token? s.lexer.offset with
    | none =>
        have refused := Option.map_eq_none_iff.mp token_eq
        obtain ⟨next, stepped, tokens, moved⟩ :=
          step_of_no_token left nonempty (attempted.trans token_eq)
        refine ⟨next, _, stepped, .of_lexeme left nonempty ?_ ?_⟩
        · rw [moved, Outline.front_of_refused refused]
        · rw [token_eq, tokens]
          exact (List.append_nil _).symm
    | some token =>
        obtain ⟨next, stepped, moved, tokens⟩ := step_of_token left (attempted.trans token_eq)
        refine ⟨next, _, stepped, .of_token left nonempty token_eq moved ?_⟩
        rw [tokens, Array.toList_push]
  · obtain ⟨next, stepped, moved, tokens⟩ := step_of_token left attempted
    rw [← @List.takeWhile_append_dropWhile _ isBlank text] at left
    have filled : text.dropWhile isBlank ≠ [] := by
      intro empty
      rw [empty] at behind
      cases behind
    refine ⟨next, _, stepped, .of_dropBlanks (.of_token left.drop filled behind moved ?_)⟩
    rw [tokens, Array.toList_push]

/-- A run from a character boundary meets no fault, and adds the tokens of the text left there. -/
theorem run_eq_tokens (offered : Offered) (left : source.LeavesAt s.lexer.offset text) :
    ∃ last, s.run offered = .ok last ∧
      last.tokens.toList = s.tokens.toList ++ Outline.tokens offered s.lexer.offset text := by
  -- every step leaves less text
  induction length : text.length using Nat.strongRecOn generalizing s text with
  | _ bound ih =>
      unfold run
      by_cases ended : s.lexer.isAtEnd = true
      · obtain rfl := (Lexer.isAtEnd_iff left).mp ended
        refine ⟨s, dif_pos ended, ?_⟩
        rw [Outline.tokens_nil, List.append_nil]
      · have nonempty : text ≠ [] := by
          intro empty
          exact ended ((Lexer.isAtEnd_iff left).mpr empty)
        obtain ⟨next, back, stepped, shorter, behind, tokens⟩ := step_inStep offered left nonempty
        obtain ⟨last, run, made⟩ := ih back.length (length ▸ shorter) behind rfl
        refine ⟨last, ?_, made.trans tokens⟩
        rw [dif_neg ended]
        split
        · next fault met => rw [stepped] at met; cases met
        · next after met => rw [stepped] at met; cases met; exact run

end TokenStream

/-- **Token streams read the tokens of the text.** They meet no fault, whatever kinds of token are
offered. -/
theorem Source.tokens_eq_outline (source : Source) (offered : Offered) :
    source.tokens offered = .ok (Outline.tokens offered 0 source.chars) := by
  obtain ⟨last, run, made⟩ :=
    @TokenStream.run_eq_tokens source {} source.chars offered source.leavesAt_zero
  rw [tokens, tokenStream, run]
  exact congrArg Except.ok made

end TemplateScan
