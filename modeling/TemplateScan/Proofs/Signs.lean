import TemplateScan.Proofs.Template.Pieces
import TemplateScan.Proofs.Template.Segmentation
import TemplateScan.Proofs.TokenStream

/-! # Signs

Markers, comments, quoted strings and escapes are written with nine characters. All that is read off
a text stays the same when every other character is veiled, that is, replaced by one of the same
width (`Outline.segments_veil`, `Outline.tokens_veil`). Two sources that are alike under the veil
have the same template and the same tokens (`Source.segment_and_tokens_of_alike`).
-/

namespace TemplateScan

/-- The characters that markers, comments, quoted strings and escapes are written with. -/
def signs : List Char :=
  ['[', '%', ']', '-', '/', '*', '\x22', '\x27', '\\']

/-- A character of a width that is no sign. -/
def filler : (width : Nat) → Char
  | 0 | 1 => 'x'
  | 2 => 'é'
  | 3 => '€'
  | _ => '😀'

/-- A sign itself, and for any other character the filler of its width. -/
def veil (c : Char) : Char :=
  if c ∈ signs then c else filler c.utf8Size

variable {c sign : Char} {text marker : List Char}

theorem filler_not_mem_signs (width : Nat) : filler width ∉ signs := by
  match width with
  | 0 | 1 | 2 | 3 => decide
  | _ + 4 => exact (by decide : '😀' ∉ signs)

theorem veil_of_mem (member : c ∈ signs) : veil c = c := by
  rw [veil, if_pos member]

theorem veil_eq_iff (member : sign ∈ signs) : veil c = sign ↔ c = sign := by
  constructor
  · intro same
    by_cases known : c ∈ signs
    · rwa [veil_of_mem known] at same
    · rw [veil, if_neg known] at same
      exact absurd (same ▸ member) (filler_not_mem_signs _)
  · rintro rfl
    exact veil_of_mem member

theorem utf8Size_veil (c : Char) : (veil c).utf8Size = c.utf8Size := by
  rw [veil]
  split
  · rfl
  · obtain width | width | width | width := c.utf8Size_eq
    all_goals
      rw [width]
      rfl

theorem byteLength_veil (text : List Char) :
    byteLength (text.map veil) = byteLength text := by
  induction text with
  | nil => rfl
  | cons c text ih => rw [List.map_cons, byteLength_cons, utf8Size_veil, ih, byteLength_cons]

/-- A marker that is written with signs alone. -/
def Signed (marker : List Char) : Prop :=
  marker.all signs.contains = true

theorem signed_directiveOpen : Signed ['[', '%'] := rfl

theorem signed_directiveOpenTrim : Signed ['[', '%', '-'] := rfl

theorem signed_directiveClose : Signed ['%', ']'] := rfl

theorem signed_directiveCloseTrim : Signed ['-', '%', ']'] := rfl

theorem signed_commentOpen : Signed ['/', '*'] := rfl

theorem signed_commentClose : Signed ['*', '/'] := rfl

theorem signed_cons_iff : Signed (sign :: marker) ↔ sign ∈ signs ∧ Signed marker := by
  rw [Signed, List.all_cons, Bool.and_eq_true, List.contains_iff_mem, Signed]

theorem isPrefix_veil_iff (signed : Signed marker) :
    marker <+: text.map veil ↔ marker <+: text := by
  induction marker generalizing text with
  | nil => exact ⟨fun _ => List.nil_prefix, fun _ => List.nil_prefix⟩
  | cons sign marker ih =>
      cases text with
      | nil => rw [List.map_nil]
      | cons c text =>
          obtain ⟨member, others⟩ := signed_cons_iff.mp signed
          have first : sign = veil c ↔ sign = c := by
            rw [eq_comm, veil_eq_iff member, eq_comm]
          rw [List.map_cons, List.cons_prefix_cons, List.cons_prefix_cons, first, ih others]

/-- Both parts of a text under the veil. -/
def veilParts (parts : List Char × List Char) : List Char × List Char :=
  (parts.1.map veil, parts.2.map veil)

theorem breakAt?_veil (signed : Signed marker) (text : List Char) :
    breakAt? marker (text.map veil) = (breakAt? marker text).map veilParts := by
  induction text with
  | nil =>
      rw [List.map_nil, breakAt?]
      split <;> rfl
  | cons c text ih =>
      by_cases here : marker <+: c :: text
      · have here' := (isPrefix_veil_iff signed).mpr here
        rw [breakAt?_of_marked here', breakAt?_of_marked here]
        rfl
      · have here' : ¬ marker <+: veil c :: text.map veil := by
          rw [← List.map_cons, isPrefix_veil_iff signed]
          exact here
        rw [List.map_cons, breakAt?_cons_of_unmarked here', breakAt?_cons_of_unmarked here, ih,
          Option.map_map, Option.map_map]
        rfl

theorem splitString?_veil {quote : Char} (signed : quote ∈ signs) (text : List Char) :
    splitString? quote (text.map veil) = (splitString? quote text).map veilParts := by
  fun_induction splitString? quote text with
  | case1 => rfl
  | case2 text =>
      rw [List.map_cons, veil_of_mem signed, splitString?_cons_quote, Option.map_some, veilParts,
        List.map_singleton, veil_of_mem signed]
  | case3 different =>
      rw [List.map_singleton, veil_of_mem (by decide)]
      unfold splitString?
      rw [if_neg different, if_pos rfl]
      rfl
  | case4 escaped text different ih =>
      rw [List.map_cons, List.map_cons, veil_of_mem (by decide), splitString?_cons_escape different,
        ih, Option.map_map, Option.map_map]
      rfl
  | case5 c text different plain ih =>
      rw [List.map_cons]
      have different' : ¬ veil c = quote := by rwa [veil_eq_iff signed]
      have plain' : ¬ veil c = '\\' := by rwa [veil_eq_iff (by decide)]
      rw [splitString?_cons_plain different' plain', ih, Option.map_map, Option.map_map]
      rfl

namespace Outline

theorem Plain.veil (plain : Plain c text) : Plain (veil c) (text.map veil) := by
  have hidden : ∀ marker : List Char, Signed marker → ¬ marker <+: c :: text →
      ¬ marker <+: TemplateScan.veil c :: text.map TemplateScan.veil := by
    intro marker signed elsewhere
    rw [← List.map_cons, isPrefix_veil_iff signed]
    exact elsewhere
  refine ⟨hidden _ signed_commentOpen plain.uncommented,
    hidden _ signed_directiveCloseTrim plain.untrimmed,
    hidden _ signed_directiveClose plain.unclosed, ?_⟩
  rw [veil_eq_iff (by decide), veil_eq_iff (by decide)]
  exact plain.unquoted

theorem body_veil (opening : Span) (offset : Nat) (text : List Char) :
    body opening offset (text.map veil) =
      (body opening offset text).map fun parts => (parts.1, parts.2.map veil) := by
  fun_induction body opening offset text with
  | case1 => exact body_nil _ _
  | case2 offset c text commented absent =>
      have commented := (isPrefix_veil_iff signed_commentOpen).mpr commented
      rw [body_of_comment _ _ commented, ← List.map_drop, breakAt?_veil signed_commentClose, absent,
        byteLength_veil]
      rfl
  | case3 offset c text commented inner after found ih =>
      have commented := (isPrefix_veil_iff signed_commentOpen).mpr commented
      rw [body_of_comment _ _ commented, ← List.map_drop, breakAt?_veil signed_commentClose, found]
      dsimp only [Option.map_some, veilParts]
      rw [byteLength_veil, ← List.map_drop, ih, map_map, map_map]
      rfl
  | case4 offset c text _ trimmed =>
      have trimmed := (isPrefix_veil_iff signed_directiveCloseTrim).mpr trimmed
      rw [@body_of_closing _ _ true _ trimmed, ← List.map_drop]
      rfl
  | case5 offset c text _ _ closed =>
      have closed := (isPrefix_veil_iff signed_directiveClose).mpr closed
      rw [@body_of_closing _ _ false _ closed, ← List.map_drop]
      rfl
  | case6 offset c text _ _ _ quoted absent =>
      have signed : c ∈ signs := by rcases quoted with rfl | rfl <;> decide
      rw [List.map_cons, veil_of_mem signed, body_of_string _ _ _ quoted, splitString?_veil signed,
        absent, byteLength_cons, byteLength_veil]
      rfl
  | case7 offset c text _ _ _ quoted literal after found ih =>
      have signed : c ∈ signs := by rcases quoted with rfl | rfl <;> decide
      rw [List.map_cons, veil_of_mem signed, body_of_string _ _ _ quoted, splitString?_veil signed,
        found]
      dsimp only [Option.map_some, veilParts]
      rw [byteLength_veil, ih]
  | case8 offset c text uncommented untrimmed unclosed unquoted ih =>
      have plain : Plain c text := ⟨uncommented, untrimmed, unclosed, unquoted⟩
      rw [List.map_cons, body_of_plain _ _ plain.veil, utf8Size_veil, ih]

theorem trimsLeft_veil (text : List Char) : trimsLeft (text.map veil) = trimsLeft text :=
  decide_eq_decide.mpr (isPrefix_veil_iff signed_directiveOpenTrim)

/-- The segments of a text do not depend on what is veiled. -/
theorem segments_veil (offset : Nat) (text : List Char) :
    segments offset (text.map veil) = segments offset text := by
  fun_induction segments offset text with
  | case1 offset => exact segments_nil offset
  | case2 offset text _ marked error read =>
      have marked := (isPrefix_veil_iff signed_directiveOpen).mpr marked
      rw [segments_of_marked _ marked, trimsLeft_veil, ← List.map_drop, body_veil, read]
      rfl
  | case3 offset text _ marked found rest read ih =>
      have marked := (isPrefix_veil_iff signed_directiveOpen).mpr marked
      rw [segments_of_marked _ marked, trimsLeft_veil, ← List.map_drop, body_veil, read, ← ih]
      rfl
  | case4 offset text _ _ commented absent =>
      have commented := (isPrefix_veil_iff signed_commentOpen).mpr commented
      rw [segments_of_comment _ commented, ← List.map_drop, breakAt?_veil signed_commentClose,
        absent, byteLength_veil]
      rfl
  | case5 offset text _ _ commented inner after found ih =>
      have commented := (isPrefix_veil_iff signed_commentOpen).mpr commented
      rw [segments_of_comment _ commented, ← List.map_drop, breakAt?_veil signed_commentClose,
        found]
      dsimp only [Option.map_some, veilParts]
      rw [byteLength_veil, ← List.map_drop, ih]
  | case6 offset text nonempty unmarked uncommented absent =>
      have nonempty' : text.map veil ≠ [] := fun empty => nonempty (List.map_eq_nil_iff.mp empty)
      rw [← isPrefix_veil_iff signed_directiveOpen] at unmarked
      rw [← isPrefix_veil_iff signed_commentOpen] at uncommented
      rw [segments_of_content _ nonempty' unmarked uncommented,
        breakAt?_veil signed_directiveOpen, absent, byteLength_veil]
      rfl
  | case7 offset text nonempty unmarked uncommented before after found ih =>
      have nonempty' : text.map veil ≠ [] := fun empty => nonempty (List.map_eq_nil_iff.mp empty)
      rw [← isPrefix_veil_iff signed_directiveOpen] at unmarked
      rw [← isPrefix_veil_iff signed_commentOpen] at uncommented
      rw [segments_of_content _ nonempty' unmarked uncommented,
        breakAt?_veil signed_directiveOpen, found]
      dsimp only [Option.map_some, veilParts]
      rw [byteLength_veil, ih]

/-! ### Tokens -/

/-- A lexeme under the veil. -/
def Lexeme.veil (lexeme : Lexeme) : Lexeme where
  kind? := lexeme.kind?
  front := lexeme.front.map TemplateScan.veil
  back := lexeme.back.map TemplateScan.veil

theorem refused_veil (text : List Char) :
    Lexeme.refused (text.map veil) = (Lexeme.refused text).veil := by
  rw [Lexeme.refused, ← List.map_take, ← List.map_drop]
  rfl

theorem head?_veil_iff (member : sign ∈ signs) :
    (text.map veil).head? = some sign ↔ text.head? = some sign := by
  cases text with
  | nil => exact Iff.rfl
  | cons c text =>
      rw [List.map_cons, List.head?_cons, List.head?_cons, Option.some.injEq, Option.some.injEq,
        veil_eq_iff member]

theorem lexeme_veil (offered : Offered) (text : List Char) :
    lexeme offered (text.map veil) = (lexeme offered text).veil := by
  have marked := @isPrefix_veil_iff text _ signed_directiveOpen
  have commented := @isPrefix_veil_iff text _ signed_commentOpen
  have slash : (text.map veil).head? = some '/' ↔ text.head? = some '/' :=
    head?_veil_iff (by decide)
  unfold lexeme
  simp only [marked, commented, slash, ← List.map_drop, refused_veil]
  split
  · rfl
  split
  · split
    · rw [breakAt?_veil signed_commentClose]
      cases breakAt? ['*', '/'] (text.drop 2) with
      | none => rfl
      | some parts =>
          simp only [Option.map_some, veilParts, Lexeme.veil, List.map_append, List.map_drop]
          rfl
    · rfl
  · split
    · rw [breakAt?_veil signed_directiveOpen]
      cases breakAt? ['[', '%'] text with
      | none => rfl
      | some parts => rfl
    · rfl

/-- The tokens of a text do not depend on what is veiled. -/
theorem tokens_veil (offered : Offered) (offset : Nat) (text : List Char) :
    tokens offered offset (text.map veil) = tokens offered offset text := by
  fun_induction tokens offered offset text with
  | case1 offset text nonempty ih =>
      have nonempty' : text.map veil ≠ [] := fun empty => nonempty (List.map_eq_nil_iff.mp empty)
      rw [tokens_of_ne_nil _ _ nonempty', lexeme_veil, ← ih]
      simp only [Lexeme.veil, Lexeme.token?, byteLength_veil]
  | case2 offset text empty =>
      obtain rfl := Classical.not_not.mp empty
      exact tokens_nil offered offset

end Outline

/-- Two characters that are the same, or that are of one width and no signs. -/
def Alike (c d : Char) : Prop :=
  c = d ∨ c ∉ signs ∧ d ∉ signs ∧ c.utf8Size = d.utf8Size

instance (c d : Char) : Decidable (Alike c d) :=
  inferInstanceAs (Decidable (_ ∨ _))

theorem Alike.veil_eq {d : Char} (alike : Alike c d) : veil c = veil d := by
  rcases alike with rfl | ⟨hidden, hidden', width⟩
  · rfl
  · rw [veil, if_neg hidden, veil, if_neg hidden', width]

theorem map_veil_of_alike {other : List Char} (length : text.length = other.length)
    (alike : ∀ pair ∈ text.zip other, Alike pair.1 pair.2) : text.map veil = other.map veil := by
  induction text generalizing other with
  | nil => rw [List.length_eq_zero_iff.mp length.symm]
  | cons c text ih =>
      cases other with
      | nil => cases length
      | cons d other =>
          have first : veil c = veil d := (alike (c, d) List.mem_cons_self).veil_eq
          have others := ih (Nat.succ.inj length) fun pair member =>
            alike pair (List.mem_cons_of_mem _ member)
          rw [List.map_cons, List.map_cons, first, others]

namespace Source

/-- **Only signs matter.** Two sources whose characters are alike one by one have the same template
or the same error, and the same tokens whatever kinds are offered. -/
theorem segment_and_tokens_of_alike {a b : Source} (length : a.chars.length = b.chars.length)
    (alike : ∀ pair ∈ a.chars.zip b.chars, Alike pair.1 pair.2) :
    a.segment = b.segment ∧ ∀ offered, a.tokens offered = b.tokens offered := by
  have veiled := map_veil_of_alike length alike
  constructor
  · have same : Outline.segments 0 a.chars = Outline.segments 0 b.chars := by
      rw [← Outline.segments_veil, veiled, Outline.segments_veil]
    rw [a.segment_eq_ok_iff.mpr rfl, b.segment_eq_ok_iff.mpr rfl, same]
  · intro offered
    rw [a.tokens_eq_outline, b.tokens_eq_outline, ← Outline.tokens_veil, veiled,
      Outline.tokens_veil]

/-- Blanks, U+0000, U+FEFF and letters of one width, around a comment and in a directive. -/
theorem segment_and_tokens_of_alike_blanks :
    (ofText " /* x */[%'é'\u0000%]\uFEFF").chars.length =
        (ofText "\u0000/*\t\n\r*/[%'¡' %]€").chars.length ∧
      (∀ pair ∈ (ofText " /* x */[%'é'\u0000%]\uFEFF").chars.zip
        (ofText "\u0000/*\t\n\r*/[%'¡' %]€").chars, Alike pair.1 pair.2) ∧
      (ofText " /* x */[%'é'\u0000%]\uFEFF").segment =
        (ofText "\u0000/*\t\n\r*/[%'¡' %]€").segment ∧
      ∀ offered, (ofText " /* x */[%'é'\u0000%]\uFEFF").tokens offered =
        (ofText "\u0000/*\t\n\r*/[%'¡' %]€").tokens offered := by
  refine ⟨?length, ?alike, segment_and_tokens_of_alike ?length ?alike⟩
  · decide +kernel
  · decide +kernel

end Source

end TemplateScan
