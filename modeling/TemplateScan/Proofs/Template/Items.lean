import TemplateScan.Proofs.Template.Pieces

/-! # Directives item by item

Between its markers a directive is written item after item: comments, quoted strings, and single
characters that start nothing (`Item.Written`). A body is read over items without regard to what
stands behind them (`Outline.body_of_written`), and every text is items up to a place where reading
stops (`Outline.Halt`): a closing marker, the end, or a comment or string that is left open. So both
what a body is (`Outline.written_of_body`) and why there is none (`Outline.written_of_error`) are
told by items.
-/

namespace TemplateScan

/-- What a directive is written of between its markers. -/
inductive Item where
  /-- A comment: the text between its opening and its closing. -/
  | comment (inner : List Char)
  /-- A quoted string: its quote, and the text behind that up to the closing quote and with it. -/
  | string (quote : Char) (literal : List Char)
  /-- A character that starts nothing. -/
  | plain (c : Char)
deriving DecidableEq, Repr

namespace Item

open Outline (Plain)

variable {back front more : List Char} {item : Item} {items later : List Item} {c : Char}
  {select : Item → Bool} {offset : Nat}

/-- The characters of an item. -/
def text : Item → List Char
  | .comment inner => ['/', '*'] ++ inner ++ ['*', '/']
  | .string quote literal => quote :: literal
  | .plain c => [c]

theorem text_ne_nil (item : Item) : item.text ≠ [] := by
  cases item <;> simp [text]

/-- The characters of a row of items. -/
def join (items : List Item) : List Char :=
  items.flatMap text

@[simp] theorem join_nil : join [] = [] := rfl

@[simp] theorem join_cons (item : Item) (items : List Item) :
    join (item :: items) = item.text ++ join items := List.flatMap_cons

@[simp] theorem join_append (items later : List Item) :
    join (items ++ later) = join items ++ join later := List.flatMap_append

/-- Is the item a comment? -/
def isComment : Item → Bool
  | .comment _ => true
  | _ => false

/-- Is the item a comment or a string, in which markers are of no account? -/
def encloses : Item → Bool
  | .plain _ => false
  | _ => true

/-- The spans of the items of some kind in a row that stands at an offset. -/
def spans (select : Item → Bool) (offset : Nat) : List Item → List Span
  | [] => []
  | item :: items =>
      let later := spans select (offset + byteLength item.text) items
      if select item then ⟨offset, offset + byteLength item.text⟩ :: later else later

theorem spans_append (select : Item → Bool) (offset : Nat) (items later : List Item) :
    spans select offset (items ++ later) =
      spans select offset items ++ spans select (offset + byteLength (join items)) later := by
  induction items generalizing offset with
  | nil => simp [spans]
  | cons item items ih =>
      rw [List.cons_append, spans, spans, ih, join_cons, byteLength_append, Nat.add_assoc]
      cases select item <;> simp

/-- Where the items of some kind stand in a row. -/
theorem mem_spans_iff {span : Span} :
    span ∈ spans select offset items ↔
      ∃ before item after, items = before ++ item :: after ∧ select item = true ∧
        span = ⟨offset + byteLength (join before),
          offset + byteLength (join before) + byteLength item.text⟩ := by
  constructor
  · intro member
    induction items generalizing offset with
    | nil => cases member
    | cons first items ih =>
        rw [spans] at member
        have found : select first = true ∧ span = ⟨offset, offset + byteLength first.text⟩ ∨
            span ∈ spans select (offset + byteLength first.text) items := by
          cases selected : select first <;> simpa [selected] using member
        rcases found with ⟨selected, here⟩ | behind
        · exact ⟨[], first, items, rfl, selected, here⟩
        · obtain ⟨before, item, after, rfl, selected, same⟩ := ih behind
          refine ⟨first :: before, item, after, rfl, selected, ?_⟩
          rw [same, join_cons, byteLength_append, Nat.add_assoc]
  · rintro ⟨before, item, after, rfl, selected, rfl⟩
    rw [spans_append, spans]
    simp [selected]

/-! ### Rows of items -/

/-- What an item asks of itself and of the text behind it. Only a single character asks anything of
what stands behind: that it starts nothing there. -/
def Stands (item : Item) (behind : List Char) : Prop :=
  match item with
  | .comment inner => breakAt? ['*', '/'] (inner ++ ['*', '/']) = some (inner, ['*', '/'])
  | .string quote literal =>
      (quote = '\x22' ∨ quote = '\x27') ∧ splitString? quote literal = some (literal, [])
  | .plain c => Plain c behind

/-- A row of items that is written in front of `back`. -/
def Written (back : List Char) : List Item → Prop
  | [] => True
  | item :: items => item.Stands (join items ++ back) ∧ Written back items

theorem written_append :
    Written back (items ++ later) ↔ Written (join later ++ back) items ∧ Written back later := by
  induction items with
  | nil => simp [Written]
  | cons item items ih =>
      rw [List.cons_append, Written, Written, ih, join_append, List.append_assoc, and_assoc]

/-! ### Other text behind a row -/

/-- A character in front of text that cannot go on with a marker starts nothing, whatever stands
behind that text. -/
theorem plain_append {head : Char} {tail : List Char} (plain : Plain c (front ++ head :: tail))
    (apart : head ∉ ['*', '%', ']']) (more : List Char) :
    Plain c (front ++ (head :: tail ++ more)) := by
  match front with
  | [] =>
      refine ⟨?_, ?_, ?_, plain.unquoted⟩
      all_goals
        intro here
        simp only [List.nil_append, List.cons_append, List.cons_prefix_cons] at here
        simp [← here.2.1] at apart
  | [d] =>
      refine ⟨?_, ?_, ?_, plain.unquoted⟩
      · have uncommented := plain.uncommented
        simpa only [List.singleton_append, List.cons_append, pair_isPrefix_cons_iff,
          List.head?_cons] using uncommented
      · intro here
        simp only [List.cons_append, List.nil_append, List.cons_prefix_cons] at here
        simp [← here.2.2.1] at apart
      · have unclosed := plain.unclosed
        simpa only [List.singleton_append, List.cons_append, pair_isPrefix_cons_iff,
          List.head?_cons] using unclosed
  | d :: e :: front =>
      rw [← List.append_assoc]
      exact plain.append (by simp) more

/-- The marker that closes a directive makes part of something of a dash at the end only. -/
theorem plain_closing (plain : Plain c front) :
    Plain c (front ++ ['%', ']']) ∨ c = '-' ∧ front = [] := by
  match front with
  | [] =>
      by_cases dash : c = '-'
      · exact .inr ⟨dash, rfl⟩
      · refine .inl ⟨?_, ?_, ?_, plain.unquoted⟩
        all_goals
          intro here
          simp only [List.nil_append, List.cons_prefix_cons] at here
        · exact absurd here.2.1 (by decide)
        · exact dash here.1.symm
        · exact absurd here.2.1 (by decide)
  | [d] =>
      refine .inl ⟨?_, ?_, ?_, plain.unquoted⟩
      · have uncommented := plain.uncommented
        simpa only [List.singleton_append, pair_isPrefix_cons_iff, List.head?_cons]
          using uncommented
      · intro here
        simp only [List.cons_append, List.nil_append, List.cons_prefix_cons] at here
        exact absurd here.2.2.1 (by decide)
      · have unclosed := plain.unclosed
        simpa only [List.singleton_append, pair_isPrefix_cons_iff, List.head?_cons]
          using unclosed
  | d :: e :: front => exact .inl (plain.append (by simp) _)

theorem Written.append {head : Char} {tail : List Char} (written : Written (head :: tail) items)
    (apart : head ∉ ['*', '%', ']']) (more : List Char) :
    Written (head :: tail ++ more) items := by
  induction items with
  | nil => trivial
  | cons item items ih =>
      refine ⟨?_, ih written.2⟩
      cases item with
      | comment inner => exact written.1
      | string quote literal => exact written.1
      | plain c => exact plain_append written.1 apart more

end Item

namespace Outline

open Item

variable {opening : Span} {offset : Nat} {text rest back front tail : List Char} {item : Item}
  {items : List Item} {found : Body} {error : TemplateError}

/-! ### Bodies over items -/

/-- A body with more comments in front of those found behind them. -/
def Body.withComments (comments : List Span) (body : Body) : Body :=
  { body with comments := comments ++ body.comments }

theorem body_of_stands (opening : Span) (offset : Nat) {behind : List Char}
    (stands : item.Stands behind) :
    body opening offset (item.text ++ behind) =
      (body opening (offset + byteLength item.text) behind).map fun parts =>
        (parts.1.withComments (spans isComment offset [item]), parts.2) := by
  cases item with
  | comment inner =>
      have width := byteLength_comment inner
      rw [Item.text, body_of_written_comment opening offset stands, spans, Item.text, width,
        Nat.add_assoc, Nat.add_assoc, ← Nat.add_assoc 2]
      rfl
  | string quote literal =>
      obtain ⟨quoted, ends⟩ := stands
      have width : offset + byteLength (quote :: literal) = offset + 1 + byteLength literal := by
        rw [byteLength_cons, utf8Size_of_quote quoted, Nat.add_assoc]
      rw [Item.text, List.cons_append, body_of_string opening offset _ quoted,
        splitString?_append ends, width]
      exact (map_id_of_eq (fun _ => rfl) _).symm
  | plain c =>
      rw [Item.text, List.singleton_append, body_of_plain opening offset stands, byteLength_cons,
        byteLength_nil, Nat.add_zero]
      exact (map_id_of_eq (fun _ => rfl) _).symm

/-- **Bodies are read over items.** A row of items adds its comments to what is found behind it. -/
theorem body_of_written (opening : Span) (offset : Nat) (written : Written back items) :
    body opening offset (join items ++ back) =
      (body opening (offset + byteLength (join items)) back).map fun parts =>
        (parts.1.withComments (spans isComment offset items), parts.2) := by
  induction items generalizing offset with
  | nil => exact (map_id_of_eq (fun _ => rfl) _).symm
  | cons item items ih =>
      obtain ⟨stands, later⟩ := written
      have whole := spans_append isComment offset [item] items
      rw [List.singleton_append, join_cons, join_nil, List.append_nil] at whole
      rw [join_cons, List.append_assoc, body_of_stands opening offset stands, ih _ later, map_map,
        byteLength_append, Nat.add_assoc, whole]
      congr 1
      funext parts
      simp only [Function.comp_apply, Body.withComments, List.append_assoc]

/-! ### Where items end -/

/-- What stands behind the items at the start of a text. -/
inductive Halt : List Char → Prop
  | ended : Halt []
  | closing (trimRight : Bool) (rest : List Char) : Halt (closeMarker trimRight ++ rest)
  | comment {inner : List Char} (absent : breakAt? ['*', '/'] inner = none) :
      Halt ('/' :: '*' :: inner)
  | string {quote : Char} {inner : List Char} (quoted : quote = '\x22' ∨ quote = '\x27')
      (absent : splitString? quote inner = none) : Halt (quote :: inner)

/-- What is left open where a body has an error. -/
inductive LeftOpen (opening : Span) (offset : Nat) : List Char → TemplateError → Prop
  | directive : LeftOpen opening offset [] (.unterminatedDirective opening)
  | comment {inner : List Char} (absent : breakAt? ['*', '/'] inner = none) :
      LeftOpen opening offset ('/' :: '*' :: inner)
        (.unterminatedComment ⟨offset, offset + byteLength ('/' :: '*' :: inner)⟩)
  | string {quote : Char} {inner : List Char} (quoted : quote = '\x22' ∨ quote = '\x27')
      (absent : splitString? quote inner = none) :
      LeftOpen opening offset (quote :: inner)
        (.unterminatedString ⟨offset, offset + byteLength (quote :: inner)⟩)

/-- Every text is written item by item up to a place where reading stops. -/
theorem exists_written (opening : Span) (offset : Nat) (text : List Char) :
    ∃ items tail, text = join items ++ tail ∧ Written tail items ∧ Halt tail := by
  have step : ∀ (item : Item) (behind : List Char), item.Stands behind →
      (∃ items tail, behind = join items ++ tail ∧ Written tail items ∧ Halt tail) →
      ∃ items tail, item.text ++ behind = join items ++ tail ∧ Written tail items ∧ Halt tail := by
    rintro item behind stands ⟨items, tail, rfl, written, halt⟩
    exact ⟨item :: items, tail, by simp, ⟨stands, written⟩, halt⟩
  fun_induction body opening offset text with
  | case1 => exact ⟨[], [], rfl, trivial, .ended⟩
  | case2 offset c text commented absent =>
      obtain ⟨inner, parts⟩ := commented
      rw [← parts] at absent ⊢
      exact ⟨[], _, rfl, trivial, .comment absent⟩
  | case3 offset c text commented inner after ends ih =>
      rw [append_of_comment commented ends]
      exact step (.comment inner) _ (breakAt?_alone ends) ih
  | case4 offset c text _ trimmed =>
      obtain ⟨rest, parts⟩ := trimmed
      rw [← parts]
      exact ⟨[], _, rfl, trivial, .closing true rest⟩
  | case5 offset c text _ _ closed =>
      obtain ⟨rest, parts⟩ := closed
      rw [← parts]
      exact ⟨[], _, rfl, trivial, .closing false rest⟩
  | case6 offset c text _ _ _ quoted absent => exact ⟨[], _, rfl, trivial, .string quoted absent⟩
  | case7 offset c text _ _ _ quoted literal after ends ih =>
      rw [append_of_splitString? ends]
      exact step (.string c literal) after ⟨quoted, splitString?_alone ends⟩ ih
  | case8 offset c text uncommented untrimmed unclosed unquoted ih =>
      exact step (.plain c) text ⟨uncommented, untrimmed, unclosed, unquoted⟩ ih

/-- What a text comes to where reading stops: a body that is its closing marker, or an error. -/
theorem Halt.body_cases (halt : Halt tail) (opening : Span) (offset : Nat) :
    (∃ trimRight rest, tail = closeMarker trimRight ++ rest ∧
      body opening offset tail =
        .ok (⟨[], ⟨offset, offset + byteLength (closeMarker trimRight)⟩, trimRight⟩, rest)) ∨
      ∃ error, body opening offset tail = .error error ∧ LeftOpen opening offset tail error := by
  cases halt with
  | ended => exact .inr ⟨_, body_nil opening offset, .directive⟩
  | closing trimRight rest =>
      refine .inl ⟨trimRight, rest, rfl, ?_⟩
      rw [body_of_closing opening offset (List.prefix_append _ rest), List.drop_left]
  | @comment inner absent =>
      refine .inr ⟨_, ?_, .comment absent⟩
      have commented : ['/', '*'] <+: '/' :: '*' :: inner := List.prefix_append ['/', '*'] inner
      rw [body_of_comment opening offset commented, List.drop_succ_cons, List.drop_succ_cons,
        List.drop_zero, absent]
  | @string quote inner quoted absent =>
      refine .inr ⟨_, ?_, .string quoted absent⟩
      rw [body_of_string opening offset inner quoted, absent]

/-- **What a body is.** Up to its closing marker it is written item by item, and its comments are
those among the items. -/
theorem written_of_body (read : body opening offset text = .ok (found, rest)) :
    ∃ items, text = join items ++ closeMarker found.trimRight ++ rest ∧
      Written (closeMarker found.trimRight ++ rest) items ∧
      found.comments = spans isComment offset items := by
  obtain ⟨items, tail, rfl, written, halt⟩ := exists_written opening offset text
  rw [body_of_written opening offset written] at read
  obtain ⟨⟨last, behind⟩, stopped, joined⟩ := exists_of_map_eq_ok read
  cases joined
  rcases halt.body_cases opening (offset + byteLength (join items)) with
    ⟨trimRight, rest, rfl, closed⟩ | ⟨error, failed, _⟩
  · rw [stopped] at closed
    cases closed
    refine ⟨items, ?_, written, ?_⟩
    · rw [List.append_assoc]
      rfl
    · simp [Body.withComments]
  · rw [stopped] at failed
    cases failed

/-- **Why there is no body.** A text without one is written item by item up to what is left open. -/
theorem written_of_error (failed : body opening offset text = .error error) :
    ∃ items tail, text = join items ++ tail ∧ Written tail items ∧
      LeftOpen opening (offset + byteLength (join items)) tail error := by
  obtain ⟨items, tail, rfl, written, halt⟩ := exists_written opening offset text
  refine ⟨items, tail, rfl, written, ?_⟩
  rw [body_of_written opening offset written] at failed
  rcases halt.body_cases opening (offset + byteLength (join items)) with
    ⟨trimRight, rest, rfl, closed⟩ | ⟨met, stopped, leftOpen⟩
  · rw [closed] at failed
    cases failed
  · rw [stopped] at failed
    cases failed
    exact leftOpen

end Outline

end TemplateScan
