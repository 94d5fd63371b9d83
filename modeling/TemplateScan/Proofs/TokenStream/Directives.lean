import TemplateScan.Proofs.Template.Anatomy
import TemplateScan.Proofs.Template.Composition
import TemplateScan.Proofs.TokenStream.Comments

/-! # Token streams inside directives

The comments of a directive are found by a walk that knows of strings and of the marker that closes
the directive, and steps over blanks by itself. A token stream over the body alone knows of neither,
and steps over opening markers. Without strings in the body both find the same comments: the items
of the body are what they have in common (`Item.tokens_of_written`).
-/

namespace TemplateScan

namespace Item

open Outline (tokens)

variable {back inner : List Char} {items : List Item}

theorem spans_shift (select : Item → Bool) (offset bytes : Nat) (items : List Item) :
    spans select (offset + bytes) items = (spans select offset items).map (·.shift bytes) := by
  induction items generalizing offset with
  | nil => rfl
  | cons item items ih =>
      rw [spans, spans, Nat.add_right_comm, ih, Nat.add_right_comm, Outline.shift_between]
      cases select item <;> rfl

theorem tokens_of_comment
    (closes : breakAt? ['*', '/'] (inner ++ ['*', '/']) = some (inner, ['*', '/']))
    (offset : Nat) (behind : List Char) :
    tokens (.only .comment) offset ((comment inner).text ++ behind) =
      ⟨.comment, ⟨offset, offset + byteLength (comment inner).text⟩⟩ ::
        tokens (.only .comment) (offset + byteLength (comment inner).text) behind := by
  obtain ⟨opening, ends⟩ := Outline.comment_written closes behind
  have nonempty := List.append_ne_nil_of_left_ne_nil (comment inner).text_ne_nil behind
  rw [Outline.tokens_of_ne_nil _ _ nonempty, text, Outline.lexeme_of_opening rfl opening, ends]
  rfl

/-- Where a row of items has no strings, the tokens of its text are the comments among them. -/
theorem tokens_of_written (written : Written back items) (double : '\x22' ∉ join items)
    (single : '\x27' ∉ join items) (offset : Nat) :
    tokens (.only .comment) offset (join items) =
      (spans isComment offset items).map (.mk .comment) := by
  induction items generalizing offset with
  | nil => exact Outline.tokens_nil _ offset
  | cons item items ih =>
      obtain ⟨stands, later⟩ := written
      rw [join_cons, List.mem_append, not_or] at double single
      have others := ih later double.2 single.2 (offset + byteLength item.text)
      rw [join_cons]
      cases item with
      | comment inner => rw [tokens_of_comment stands, others]; rfl
      | string quote literal =>
          -- a string starts with a quote
          rcases stands.1 with rfl | rfl
          · exact absurd List.mem_cons_self double.1
          · exact absurd List.mem_cons_self single.1
      | plain c =>
          have uncommented : ¬ ['/', '*'] <+: c :: join items := by
            intro opening
            exact stands.uncommented (opening.trans (List.prefix_append (c :: join items) back))
          rw [text, List.singleton_append, Outline.tokens_cons_of_uncommented uncommented]
          exact others

end Item

namespace Source

variable {source : Source} {template : Template} {d : Directive}

/-- **Walks and token streams find the same comments.** The comments of a directive whose body has
no quotes are the comment tokens of the text of that body, moved to where the body stands. -/
theorem comments_eq_tokens_of_body (segmented : source.segment = .ok (.ok template))
    (member : d ∈ template.directives) :
    ∃ body tokens, source.cut d.body = .ok body ∧
      (ofText body).tokens (.only .comment) = .ok tokens ∧
      ('\x22' ∉ body.toList → '\x27' ∉ body.toList →
        d.comments = tokens.map fun token => token.span.shift d.body.start) := by
  obtain ⟨before, after, parts⟩ := List.append_of_mem (Template.mem_directives_iff.mp member)
  obtain ⟨offset, piece, back, left, made, _, _⟩ := piece_of_segment segmented parts
  obtain ⟨items, anatomy⟩ := made.anatomy left
  obtain ⟨behind, leaves, stop, written⟩ := anatomy.written
  have cut : source.cut d.body = .ok (String.ofList (Item.join items)) := by
    rw [← leaves.cut_eq, ← stop]
  refine ⟨_, _, cut, tokens_eq_outline _ _, ?_⟩
  intro double single
  rw [String.toList_ofList] at double single
  have chars : (ofText (String.ofList (Item.join items))).chars = Item.join items :=
    String.toList_ofList
  have moved := Item.spans_shift Item.isComment 0 d.body.start items
  rw [Nat.zero_add] at moved
  rw [chars, Item.tokens_of_written written double single, anatomy.comments, moved, List.map_map]
  rfl

/-- Behind a character of two bytes: an opening marker in a body, a marker that closes in a comment,
comments side by side, and a lone slash at the end. -/
theorem comments_eq_tokens_of_body_slashes :
    ∃ template d tokens, (ofText "é[%-[%/*%]*//**/ é/%]").segment = .ok (.ok template) ∧
      d ∈ template.directives ∧
      (ofText "é[%-[%/*%]*//**/ é/%]").cut d.body = .ok "[%/*%]*//**/ é/" ∧
      (ofText "[%/*%]*//**/ é/").tokens (.only .comment) = .ok tokens ∧
      d.comments = [⟨7, 13⟩, ⟨13, 17⟩] ∧
      d.comments = tokens.map fun token => token.span.shift d.body.start := by
  have segmented : (ofText "é[%-[%/*%]*//**/ é/%]").segment =
      .ok (.ok ⟨[.content ⟨0, 2⟩, .directive ⟨⟨2, 5⟩, ⟨5, 21⟩, ⟨21, 23⟩, true, false,
        [⟨7, 13⟩, ⟨13, 17⟩]⟩]⟩) := by
    with_unfolding_all rfl
  obtain ⟨body, tokens, cut, read, same⟩ :=
    comments_eq_tokens_of_body segmented (List.mem_singleton_self _)
  have text : (ofText "é[%-[%/*%]*//**/ é/%]").cut ⟨5, 21⟩ = .ok "[%/*%]*//**/ é/" := by
    with_unfolding_all rfl
  rw [text] at cut
  cases cut
  exact ⟨_, _, tokens, segmented, List.mem_singleton_self _, text, read, rfl,
    same (by decide) (by decide)⟩

end Source

end TemplateScan
