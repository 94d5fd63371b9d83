import TemplateScan.Proofs.Text
import TemplateScan.Template

/-! # Outlines of a text

The segments of a text read off the text alone, without a host and without attempts at tokens. Each
place is decided by the characters that stand there: between directives by the opening of a
directive or of a comment, and in a directive by a comment, a closing marker, a quoted string or
the end of the text, whichever comes first.
-/

namespace TemplateScan

theorem exists_of_map_eq_ok {ε α β : Type} {f : α → β} {outcome : Except ε α} {b : β}
    (mapped : outcome.map f = .ok b) : ∃ a, outcome = .ok a ∧ f a = b := by
  cases outcome with
  | error error => cases mapped
  | ok a => exact ⟨a, rfl, Except.ok.inj mapped⟩

namespace Outline

theorem map_map {ε α β γ : Type} (f : α → β) (g : β → γ) (outcome : Except ε α) :
    (outcome.map f).map g = outcome.map (g ∘ f) := by
  cases outcome <;> rfl

/-- What is found in a directive behind its opening marker. -/
structure Body where
  comments : List Span
  closing : Span
  trimRight : Bool
deriving DecidableEq, Repr

namespace Body

/-- A body with one more comment in front of those found behind it. -/
def withComment (comment : Span) (body : Body) : Body :=
  { body with comments := comment :: body.comments }

/-- The directive that an opening marker and a body make. -/
def directive (body : Body) (opening : Span) (trimLeft : Bool) : Directive where
  opening := opening
  body := ⟨opening.stop, body.closing.start⟩
  closing := body.closing
  trimLeft := trimLeft
  trimRight := body.trimRight
  comments := body.comments

end Body

/-- The body of a directive, read from an offset at which `text` is left, and the text behind its
closing marker. -/
def body (opening : Span) (offset : Nat) (text : List Char) :
    Except TemplateError (Body × List Char) :=
  match text with
  | [] => .error (.unterminatedDirective opening)
  | c :: rest =>
      if ['/', '*'] <+: c :: rest then
        match _found : breakAt? ['*', '/'] ((c :: rest).drop 2) with
        | none => .error (.unterminatedComment ⟨offset, offset + byteLength (c :: rest)⟩)
        | some (inner, after) =>
            (body opening (offset + 2 + byteLength inner + 2) (after.drop 2)).map fun parts =>
              (parts.1.withComment ⟨offset, offset + 2 + byteLength inner + 2⟩, parts.2)
      else if ['-', '%', ']'] <+: c :: rest then
        .ok (⟨[], ⟨offset, offset + 3⟩, true⟩, (c :: rest).drop 3)
      else if ['%', ']'] <+: c :: rest then
        .ok (⟨[], ⟨offset, offset + 2⟩, false⟩, (c :: rest).drop 2)
      else if c = '\x22' ∨ c = '\x27' then
        match _found : splitString? c rest with
        | none => .error (.unterminatedString ⟨offset, offset + byteLength (c :: rest)⟩)
        | some (literal, after) => body opening (offset + 1 + byteLength literal) after
      else
        body opening (offset + c.utf8Size) rest
termination_by text.length
decreasing_by
  · have parts := congrArg List.length (append_of_breakAt? _found).1
    simp only [List.length_append, List.length_drop, List.length_cons] at parts ⊢
    omega
  · have parts := congrArg List.length (append_of_splitString? _found)
    simp only [List.length_append, List.length_cons] at parts ⊢
    omega
  · exact Nat.lt_succ_self _

theorem body_nil (opening : Span) (offset : Nat) :
    body opening offset [] = .error (.unterminatedDirective opening) := by
  rw [body]

theorem body_of_comment (opening : Span) (offset : Nat) {text : List Char}
    (commented : ['/', '*'] <+: text) :
    body opening offset text =
      match breakAt? ['*', '/'] (text.drop 2) with
      | none => .error (.unterminatedComment ⟨offset, offset + byteLength text⟩)
      | some (inner, after) =>
          (body opening (offset + 2 + byteLength inner + 2) (after.drop 2)).map fun parts =>
            (parts.1.withComment ⟨offset, offset + 2 + byteLength inner + 2⟩, parts.2) := by
  cases text with
  | nil => cases List.prefix_nil.mp commented
  | cons c text =>
      rw [body, if_pos commented]
      split
      · next absent => rw [absent]
      · next inner after found => rw [found]

theorem utf8Size_of_quote {quote : Char} (quoted : quote = '\x22' ∨ quote = '\x27') :
    quote.utf8Size = 1 := by
  rcases quoted with rfl | rfl <;> rfl

theorem body_of_string (opening : Span) (offset : Nat) {quote : Char} (text : List Char)
    (quoted : quote = '\x22' ∨ quote = '\x27') :
    body opening offset (quote :: text) =
      match splitString? quote text with
      | none => .error (.unterminatedString ⟨offset, offset + byteLength (quote :: text)⟩)
      | some (literal, after) => body opening (offset + 1 + byteLength literal) after := by
  have starts : ∀ (m : Char) (marker : List Char), m ≠ '\x22' → m ≠ '\x27' →
      ¬ (m :: marker) <+: quote :: text := by
    rintro m marker double single here
    obtain rfl := (List.cons_prefix_cons.mp here).1
    rcases quoted with rfl | rfl
    · exact double rfl
    · exact single rfl
  rw [body, if_neg (starts _ _ (by decide) (by decide)),
    if_neg (starts _ _ (by decide) (by decide)), if_neg (starts _ _ (by decide) (by decide)),
    if_pos quoted]
  split
  · next absent => rw [absent]
  · next literal after found => rw [found]

/-- The marker that closes a directive. -/
def closeMarker (trimRight : Bool) : List Char :=
  if trimRight then ['-', '%', ']'] else ['%', ']']

theorem closeMarker_ne_nil (trimRight : Bool) : closeMarker trimRight ≠ [] := by
  cases trimRight <;> exact List.cons_ne_nil _ _

theorem body_of_closing (opening : Span) (offset : Nat) {trimRight : Bool} {text : List Char}
    (closed : closeMarker trimRight <+: text) :
    body opening offset text =
      .ok (⟨[], ⟨offset, offset + byteLength (closeMarker trimRight)⟩, trimRight⟩,
        text.drop (closeMarker trimRight).length) := by
  cases trimRight with
  | true =>
      obtain ⟨rest, rfl⟩ := closed
      change body opening offset ('-' :: '%' :: ']' :: rest) = _
      rw [body, if_neg (by simp), if_pos (by simp)]
      rfl
  | false =>
      obtain ⟨rest, rfl⟩ := closed
      change body opening offset ('%' :: ']' :: rest) = _
      rw [body, if_neg (by simp), if_neg (by simp), if_pos (by simp)]
      rfl

/-- Comments of a text that stands at an offset, each somewhere behind the one before it. -/
inductive Threaded : Nat → List Char → List Span → Prop
  | nil (offset : Nat) (text : List Char) : Threaded offset text []
  | cons {offset : Nat} {gap comment rest : List Char} {comments : List Span}
      (nonempty : comment ≠ [])
      (later : Threaded (offset + byteLength gap + byteLength comment) rest comments) :
      Threaded offset (gap ++ comment ++ rest)
        (⟨offset + byteLength gap, offset + byteLength gap + byteLength comment⟩ :: comments)

theorem Threaded.behind {offset : Nat} {front text : List Char} {comments : List Span}
    (threaded : Threaded (offset + byteLength front) text comments) :
    Threaded offset (front ++ text) comments := by
  cases threaded with
  | nil => exact .nil _ _
  | @cons _ gap comment rest comments nonempty later =>
      rw [Nat.add_assoc offset, ← byteLength_append, ← List.append_assoc, ← List.append_assoc]
      rw [Nat.add_assoc offset, ← byteLength_append] at later
      exact .cons nonempty later

theorem byteLength_comment (inner : List Char) :
    byteLength (['/', '*'] ++ inner ++ ['*', '/']) = 2 + byteLength inner + 2 := by
  rw [byteLength_append, byteLength_append]
  rfl

/-- A body ends with the closing marker it names, where it says so, and its comments stand in
front of that marker. -/
theorem parts_of_body {opening : Span} {offset : Nat} {text rest : List Char} {found : Body}
    (read : body opening offset text = .ok (found, rest)) :
    ∃ inside, text = inside ++ closeMarker found.trimRight ++ rest ∧
      found.closing = ⟨offset + byteLength inside,
        offset + byteLength inside + byteLength (closeMarker found.trimRight)⟩ ∧
      Threaded offset inside found.comments := by
  fun_induction body opening offset text generalizing found with
  | case1 => cases read
  | case2 => cases read
  | case3 offset c text opens inner after ends ih =>
      obtain ⟨⟨later, behind⟩, nested, joined⟩ := exists_of_map_eq_ok read
      cases joined
      obtain ⟨inside, parts, closing, threaded⟩ := ih nested
      have width : offset + 2 + byteLength inner + 2 =
          offset + byteLength (['/', '*'] ++ inner ++ ['*', '/']) := by
        rw [byteLength_comment]
        omega
      rw [width] at closing threaded ⊢
      refine ⟨['/', '*'] ++ inner ++ ['*', '/'] ++ inside, ?_, ?_, ?_⟩
      · rw [append_of_comment opens ends, parts]
        simp only [List.append_assoc]
        rfl
      · have total := byteLength_append (['/', '*'] ++ inner ++ ['*', '/']) inside
        rw [total, ← Nat.add_assoc]
        exact closing
      · exact @Threaded.cons offset [] _ _ _ (by simp) threaded
  | case4 offset c text _ marked =>
      cases read
      obtain ⟨rest, parts⟩ := marked
      rw [← parts]
      exact ⟨[], rfl, rfl, .nil _ _⟩
  | case5 offset c text _ _ marked =>
      cases read
      obtain ⟨rest, parts⟩ := marked
      rw [← parts]
      exact ⟨[], rfl, rfl, .nil _ _⟩
  | case6 => cases read
  | case7 offset c text _ _ _ quote literal after ends ih =>
      obtain ⟨inside, parts, closing, threaded⟩ := ih read
      have width : offset + 1 + byteLength literal = offset + byteLength (c :: literal) := by
        rw [byteLength_cons, utf8Size_of_quote quote, Nat.add_assoc]
      rw [width] at closing threaded
      refine ⟨c :: literal ++ inside, ?_, ?_, threaded.behind⟩
      · rw [append_of_splitString? ends, parts]
        simp only [List.append_assoc, List.cons_append]
      · rw [byteLength_append, ← Nat.add_assoc]
        exact closing
  | case8 offset c text _ _ _ _ ih =>
      obtain ⟨inside, parts, closing, threaded⟩ := ih read
      have width : offset + c.utf8Size = offset + byteLength [c] := by
        rw [byteLength_cons, byteLength_nil, Nat.add_zero]
      rw [width] at closing threaded
      refine ⟨[c] ++ inside, by rw [parts]; rfl, ?_, threaded.behind⟩
      rw [byteLength_append, ← Nat.add_assoc]
      exact closing

theorem length_lt_of_body {opening : Span} {offset : Nat} {text rest : List Char} {found : Body}
    (read : body opening offset text = .ok (found, rest)) : rest.length < text.length := by
  obtain ⟨inside, rfl, _⟩ := parts_of_body read
  have marked : 2 ≤ (closeMarker found.trimRight).length := by
    cases found.trimRight <;> decide
  simp only [List.length_append]
  omega

/-- A blank starts nothing in a directive, so blanks are passed over. -/
theorem body_dropBlanks (opening : Span) (offset : Nat) (text : List Char) :
    body opening offset text =
      body opening (offset + byteLength (text.takeWhile isBlank)) (text.dropWhile isBlank) := by
  induction text generalizing offset with
  | nil => rfl
  | cons c text ih =>
      by_cases blank : isBlank c = true
      · have starts : ∀ (m : Char) (marker : List Char), isBlank m = false →
            ¬ (m :: marker) <+: c :: text := by
          intro m marker solid here
          rw [(List.cons_prefix_cons.mp here).1, blank] at solid
          cases solid
        have unquoted : ¬ (c = '\x22' ∨ c = '\x27') := by
          rintro (rfl | rfl) <;> exact absurd blank (by decide)
        rw [List.takeWhile_cons_of_pos blank, List.dropWhile_cons_of_pos blank, body,
          if_neg (starts _ _ (by decide)), if_neg (starts _ _ (by decide)),
          if_neg (starts _ _ (by decide)), if_neg unquoted, ih, byteLength_cons, Nat.add_assoc]
      · rw [List.takeWhile_cons_of_neg blank, List.dropWhile_cons_of_neg blank]
        rfl

/-- The opening marker at the start of a text trims the text in front of it if a dash follows. -/
def trimsLeft (text : List Char) : Bool :=
  ['[', '%', '-'] <+: text

/-- The number of bytes of an opening marker. -/
def openWidth (trimLeft : Bool) : Nat :=
  if trimLeft then 3 else 2

/-- The marker that opens a directive. -/
def openMarker (trimLeft : Bool) : List Char :=
  if trimLeft then ['[', '%', '-'] else ['[', '%']

theorem byteLength_openMarker (trimLeft : Bool) :
    byteLength (openMarker trimLeft) = openWidth trimLeft := by
  cases trimLeft <;> rfl

theorem append_of_openMarker {text : List Char} (marked : ['[', '%'] <+: text) :
    text = openMarker (trimsLeft text) ++ text.drop (openWidth (trimsLeft text)) := by
  cases trims : trimsLeft text with
  | true =>
      have dashed : ['[', '%', '-'] <+: text := of_decide_eq_true trims
      exact (List.prefix_iff_eq_append.mp dashed).symm
  | false => exact (List.prefix_iff_eq_append.mp marked).symm

theorem append_of_opening {text : List Char} (marked : ['[', '%'] <+: text) :
    ∃ marker, text = marker ++ text.drop (openWidth (trimsLeft text)) ∧
      byteLength marker = openWidth (trimsLeft text) :=
  ⟨_, append_of_openMarker marked, byteLength_openMarker _⟩

/-- The segments of a text that is left at an offset. -/
def segments (offset : Nat) (text : List Char) : Except TemplateError (List Segment) :=
  if text = [] then .ok []
  else if ['[', '%'] <+: text then
    match _read : body ⟨offset, offset + openWidth (trimsLeft text)⟩
        (offset + openWidth (trimsLeft text)) (text.drop (openWidth (trimsLeft text))) with
    | .error error => .error error
    | .ok (body, rest) =>
        (segments body.closing.stop rest).map
          (.directive (body.directive ⟨offset, offset + openWidth (trimsLeft text)⟩
            (trimsLeft text)) :: ·)
  else if ['/', '*'] <+: text then
    match _found : breakAt? ['*', '/'] (text.drop 2) with
    | none => .error (.unterminatedComment ⟨offset, offset + byteLength text⟩)
    | some (inner, after) =>
        (segments (offset + 2 + byteLength inner + 2) (after.drop 2)).map
          (.comment ⟨offset, offset + 2 + byteLength inner + 2⟩ :: ·)
  else
    match _found : breakAt? ['[', '%'] text with
    | none => .ok [.content ⟨offset, offset + byteLength text⟩]
    | some (before, after) =>
        (segments (offset + byteLength before) after).map
          (.content ⟨offset, offset + byteLength before⟩ :: ·)
termination_by text.length
decreasing_by
  · have shorter := length_lt_of_body _read
    rw [List.length_drop] at shorter
    omega
  · have parts := congrArg List.length (append_of_comment ‹_› _found)
    simp only [List.length_append, List.length_cons] at parts ⊢
    omega
  · have nonempty := List.length_pos_iff.mpr (ne_nil_of_breakAt? _found ‹_›)
    have parts := congrArg List.length (append_of_breakAt? _found).1
    rw [List.length_append] at parts
    omega

variable (offset : Nat) {text : List Char}

theorem segments_nil : segments offset [] = .ok [] := by
  rw [segments, if_pos rfl]

theorem segments_of_marked (marked : ['[', '%'] <+: text) :
    segments offset text =
      (body ⟨offset, offset + openWidth (trimsLeft text)⟩ (offset + openWidth (trimsLeft text))
        (text.drop (openWidth (trimsLeft text)))).bind fun parts =>
          (segments parts.1.closing.stop parts.2).map
            (.directive (parts.1.directive ⟨offset, offset + openWidth (trimsLeft text)⟩
              (trimsLeft text)) :: ·) := by
  have nonempty : text ≠ [] := by
    rintro rfl
    cases List.prefix_nil.mp marked
  rw [segments, if_neg nonempty, if_pos marked]
  split
  · next error read => rw [read]; rfl
  · next found rest read => rw [read]; rfl

theorem segments_of_comment (opening : ['/', '*'] <+: text) :
    segments offset text =
      match breakAt? ['*', '/'] (text.drop 2) with
      | none => .error (.unterminatedComment ⟨offset, offset + byteLength text⟩)
      | some (inner, after) =>
          (segments (offset + 2 + byteLength inner + 2) (after.drop 2)).map
            (.comment ⟨offset, offset + 2 + byteLength inner + 2⟩ :: ·) := by
  have nonempty : text ≠ [] := by
    rintro rfl
    cases List.prefix_nil.mp opening
  have unmarked : ¬ ['[', '%'] <+: text := by
    obtain ⟨rest, rfl⟩ := opening
    intro marked
    exact absurd (List.cons_prefix_cons.mp marked).1 (by decide)
  rw [segments, if_neg nonempty, if_neg unmarked, if_pos opening]
  split
  · next absent => rw [absent]
  · next inner after found => rw [found]

theorem segments_of_content (nonempty : text ≠ []) (unmarked : ¬ ['[', '%'] <+: text)
    (uncommented : ¬ ['/', '*'] <+: text) :
    segments offset text =
      match breakAt? ['[', '%'] text with
      | none => .ok [.content ⟨offset, offset + byteLength text⟩]
      | some (before, after) =>
          (segments (offset + byteLength before) after).map
            (.content ⟨offset, offset + byteLength before⟩ :: ·) := by
  rw [segments, if_neg nonempty, if_neg unmarked, if_neg uncommented]
  split
  · next absent => rw [absent]
  · next before after found => rw [found]

end Outline

end TemplateScan
