import TemplateScan.Proofs.Template.Pieces
import TemplateScan.Proofs.Template.Tiling

/-! # Bodies that are cut off

A directive that is cut off is open: in front of the cut there is no closing marker for it. What the
rest of it fails with is told from the comments and the strings of the whole directive
(`Outline.body_cut`), as a cut goes through at most one of them.
-/

namespace TemplateScan

namespace Outline

variable {opening : Span} {offset c : Nat} {char : Char}
  {text inner literal kept dropped gap back rest : List Char} {comments quotes : List Span}
  {error : TemplateError} {found : Body} {first : Segment}

/-! ### The strings of a body -/

/-- The quoted strings in the body of a directive that stands at an offset. What is in a comment is
no string. -/
def strings (offset : Nat) (text : List Char) : List Span :=
  match text with
  | [] => []
  | c :: rest =>
      if ['/', '*'] <+: c :: rest then
        match _found : breakAt? ['*', '/'] ((c :: rest).drop 2) with
        | none => []
        | some (inner, after) => strings (offset + 2 + byteLength inner + 2) (after.drop 2)
      else if c = '\x22' ∨ c = '\x27' then
        match _found : splitString? c rest with
        | none => []
        | some (literal, after) =>
            ⟨offset, offset + 1 + byteLength literal⟩ ::
              strings (offset + 1 + byteLength literal) after
      else strings (offset + c.utf8Size) rest
termination_by text.length
decreasing_by
  · have parts := congrArg List.length (append_of_breakAt? _found).1
    simp only [List.length_append, List.length_drop, List.length_cons] at parts ⊢
    omega
  · have parts := congrArg List.length (append_of_splitString? _found)
    simp only [List.length_append, List.length_cons] at parts ⊢
    omega
  · exact Nat.lt_succ_self _

theorem strings_nil (offset : Nat) : strings offset [] = [] := by
  rw [strings]

theorem strings_of_written_comment (offset : Nat)
    (closes : breakAt? ['*', '/'] (inner ++ ['*', '/']) = some (inner, ['*', '/']))
    (back : List Char) :
    strings offset (['/', '*'] ++ inner ++ ['*', '/'] ++ back) =
      strings (offset + 2 + byteLength inner + 2) back := by
  obtain ⟨commented, ends⟩ := comment_written closes back
  rw [List.append_assoc, List.append_assoc, List.cons_append] at commented ends ⊢
  rw [strings, if_pos commented]
  split
  · next absent =>
      rw [ends] at absent
      cases absent
  · next inner after again =>
      rw [ends] at again
      cases again
      rfl

theorem strings_of_written_string (offset : Nat) (quoted : char = '\x22' ∨ char = '\x27')
    (ends : splitString? char literal = some (literal, [])) (back : List Char) :
    strings offset (char :: literal ++ back) =
      ⟨offset, offset + 1 + byteLength literal⟩ ::
        strings (offset + 1 + byteLength literal) back := by
  have written : splitString? char (literal ++ back) = some (literal, back) :=
    splitString?_append ends back
  have uncommented : ¬ ['/', '*'] <+: char :: (literal ++ back) := by
    intro here
    obtain rfl := (List.cons_prefix_cons.mp here).1
    rcases quoted with impossible | impossible <;> exact absurd impossible (by decide)
  rw [List.cons_append, strings, if_neg uncommented, if_pos quoted]
  split
  · next absent =>
      rw [written] at absent
      cases absent
  · next literal after again =>
      rw [written] at again
      cases again
      rfl

theorem strings_of_plain (offset : Nat) (plain : Plain char text) :
    strings offset (char :: text) = strings (offset + char.utf8Size) text := by
  rw [strings, if_neg plain.uncommented, if_neg plain.unquoted]

/-- The spans of a list start at an offset or behind it. -/
def Ahead (offset : Nat) (spans : List Span) : Prop :=
  ∀ span ∈ spans, offset ≤ span.start

theorem Ahead.mono {spans : List Span} (ahead : Ahead offset spans) (before : c ≤ offset) :
    Ahead c spans := by
  intro span member
  exact Nat.le_trans before (ahead span member)

theorem le_start_of_strings (offset : Nat) (text : List Char) :
    Ahead offset (strings offset text) := by
  intro span member
  fun_induction strings offset text with
  | case1 => cases member
  | case2 => cases member
  | case3 offset c text _ inner after _ ih =>
      have := ih member
      omega
  | case4 => cases member
  | case5 offset c text _ _ literal after _ ih =>
      rcases List.mem_cons.mp member with rfl | later
      · exact Nat.le_refl _
      · have := ih later
        omega
  | case6 offset c text _ _ ih =>
      have := ih member
      omega

theorem le_start_of_comments (read : body opening offset text = .ok (found, rest)) :
    Ahead offset found.comments := by
  intro span member
  obtain ⟨inside, _, _, threaded⟩ := parts_of_body read
  exact (threaded.bounds span member).1

/-! ### Bodies that are cut off -/

/-- What a directive that is open at `c` fails with: a comment that `c` cuts behind its opening, a
string that `c` cuts, and otherwise the directive itself. -/
structure CutError (opening : Span) (comments quotes : List Span) (c : Nat)
    (error : TemplateError) : Prop where
  comment : ∀ span ∈ comments, span.start + 2 ≤ c → c < span.stop →
    error = .unterminatedComment ⟨span.start, c⟩
  string : ∀ span ∈ quotes, span.start < c → c < span.stop →
    error = .unterminatedString ⟨span.start, c⟩
  otherwise : (∀ span ∈ comments, ¬ (span.start + 2 ≤ c ∧ c < span.stop)) →
    (∀ span ∈ quotes, ¬ (span.start < c ∧ c < span.stop)) →
    error = .unterminatedDirective opening

namespace CutError

theorem of_ahead (opening : Span) (commentsAhead : ∀ span ∈ comments, c < span.start + 2)
    (quotesAhead : ∀ span ∈ quotes, c ≤ span.start) :
    CutError opening comments quotes c (.unterminatedDirective opening) where
  comment span member reached := by
    have := commentsAhead span member
    omega
  string span member reached := by
    have := quotesAhead span member
    omega
  otherwise _ _ := rfl

theorem cons_comment {comment : Span} (cut : CutError opening comments quotes c error)
    (passed : comment.stop ≤ c) : CutError opening (comment :: comments) quotes c error where
  comment span member reached inside := by
    rcases List.mem_cons.mp member with rfl | later
    · omega
    · exact cut.comment span later reached inside
  string := cut.string
  otherwise outside := cut.otherwise fun span member =>
    outside span (List.mem_cons_of_mem comment member)

theorem cons_string {quote : Span} (cut : CutError opening comments quotes c error)
    (passed : quote.stop ≤ c) : CutError opening comments (quote :: quotes) c error where
  comment := cut.comment
  string span member reached inside := by
    rcases List.mem_cons.mp member with rfl | later
    · omega
    · exact cut.string span later reached inside
  otherwise outside unquoted := cut.otherwise outside fun span member =>
    unquoted span (List.mem_cons_of_mem quote member)

theorem in_comment {comment : Span} (reached : comment.start + 2 ≤ c) (inside : c < comment.stop)
    (commentsAhead : ∀ span ∈ comments, c ≤ span.start)
    (quotesAhead : ∀ span ∈ quotes, c ≤ span.start) :
    CutError opening (comment :: comments) quotes c
      (.unterminatedComment ⟨comment.start, c⟩) where
  comment span member here _ := by
    rcases List.mem_cons.mp member with rfl | later
    · rfl
    · have := commentsAhead span later
      omega
  string span member here := by
    have := quotesAhead span member
    omega
  otherwise outside := absurd ⟨reached, inside⟩ (outside comment List.mem_cons_self)

theorem in_string {quote : Span} (reached : quote.start < c) (inside : c < quote.stop)
    (commentsAhead : ∀ span ∈ comments, c ≤ span.start)
    (quotesAhead : ∀ span ∈ quotes, c ≤ span.start) :
    CutError opening comments (quote :: quotes) c (.unterminatedString ⟨quote.start, c⟩) where
  comment span member here := by
    have := commentsAhead span member
    omega
  string span member here _ := by
    rcases List.mem_cons.mp member with rfl | later
    · rfl
    · have := quotesAhead span later
      omega
  otherwise _ unquoted := absurd ⟨reached, inside⟩ (unquoted quote List.mem_cons_self)

end CutError

/-- A comment that is cut off has no end. -/
theorem comment_cut (closes : breakAt? ['*', '/'] (inner ++ ['*', '/']) = some (inner, ['*', '/']))
    (parts : ['/', '*'] ++ inner ++ ['*', '/'] = kept ++ gap) (nonempty : gap ≠ []) :
    kept = [] ∨ kept = ['/'] ∨
      ['/', '*'] <+: kept ∧ breakAt? ['*', '/'] (kept.drop 2) = none := by
  match kept, parts with
  | [], _ => exact .inl rfl
  | [first], parts =>
      obtain rfl : '/' = first := (List.cons.inj parts).1
      exact .inr (.inl rfl)
  | first :: second :: kept, parts =>
      simp only [List.cons_append, List.nil_append, List.cons.injEq] at parts
      obtain ⟨rfl, rfl, parts⟩ := parts
      refine .inr (.inr ⟨List.prefix_append ['/', '*'] kept, ?_⟩)
      have short : kept.length < inner.length + 2 := by
        have widths := congrArg List.length parts
        have := List.length_pos_iff.mpr nonempty
        simp only [List.length_append, List.length_cons, List.length_nil] at widths
        omega
      rw [parts] at closes
      exact breakAt?_eq_none_of_short closes short

/-- Wherever a piece of a directive is cut off, reading it fails as the cut says. -/
def FailsCut (opening : Span) (offset : Nat) (piece : List Char) (comments quotes : List Span) :
    Prop :=
  ∀ kept gap, piece = kept ++ gap → gap ≠ [] →
    ∃ error, body opening offset kept = .error error ∧
      CutError opening comments quotes (offset + byteLength kept) error

theorem fails_of_nil (opening : Span) (commentsAhead : Ahead offset comments)
    (quotesAhead : Ahead offset quotes) :
    ∃ error, body opening offset [] = .error error ∧
      CutError opening comments quotes (offset + byteLength []) error := by
  refine ⟨_, body_nil opening offset, .of_ahead opening ?_ quotesAhead⟩
  intro span member
  have := commentsAhead span member
  rw [byteLength_nil]
  omega

/-- A closing marker that is cut off closes nothing. -/
theorem failsCut_closing (opening : Span) (offset : Nat) (trimRight : Bool) :
    FailsCut opening offset (closeMarker trimRight) [] [] := by
  intro kept gap parts nonempty
  have unread : body opening offset kept = .error (.unterminatedDirective opening) := by
    cases trimRight with
    | true =>
        match kept, parts with
        | [], _ => exact body_nil opening offset
        | [_], rfl => rw [body_of_plain opening offset (by decide), body_nil]
        | [_, _], rfl =>
            rw [body_of_plain opening offset (by decide), body_of_plain opening _ (by decide),
              body_nil]
        | [_, _, _], rfl => exact absurd rfl nonempty
    | false =>
        match kept, parts with
        | [], _ => exact body_nil opening offset
        | [_], rfl => rw [body_of_plain opening offset (by decide), body_nil]
        | [_, _], rfl => exact absurd rfl nonempty
  refine ⟨_, unread, .of_ahead opening ?_ ?_⟩
  all_goals
    intro span impossible
    cases impossible

theorem FailsCut.comment {piece : List Char}
    (closes : breakAt? ['*', '/'] (inner ++ ['*', '/']) = some (inner, ['*', '/']))
    (fails : FailsCut opening (offset + 2 + byteLength inner + 2) piece comments quotes)
    (commentsAhead : Ahead (offset + 2 + byteLength inner + 2) comments)
    (quotesAhead : Ahead (offset + 2 + byteLength inner + 2) quotes) :
    FailsCut opening offset (['/', '*'] ++ inner ++ ['*', '/'] ++ piece)
      (⟨offset, offset + 2 + byteLength inner + 2⟩ :: comments) quotes := by
  intro kept gap parts nonempty
  rcases kept_or_cut parts with ⟨more, rfl, rest⟩ | ⟨missing, unfinished, early⟩
  · obtain ⟨error, failed, cut⟩ := fails more gap rest nonempty
    refine ⟨error, ?_, ?_⟩
    · rw [body_of_written_comment opening offset closes, failed]
      rfl
    · have width := byteLength_append (['/', '*'] ++ inner ++ ['*', '/']) more
      rw [byteLength_comment] at width
      have reached : offset + byteLength (['/', '*'] ++ inner ++ ['*', '/'] ++ more) =
          offset + 2 + byteLength inner + 2 + byteLength more := by omega
      rw [reached]
      exact cut.cons_comment (Nat.le_add_right _ _)
  · have short : byteLength kept < 2 + byteLength inner + 2 := by
      have width := congrArg byteLength early
      have := byteLength_pos unfinished
      rw [byteLength_comment, byteLength_append] at width
      omega
    have commentsBehind := commentsAhead.mono (c := offset + byteLength kept) (by omega)
    have quotesBehind := quotesAhead.mono (c := offset + byteLength kept) (by omega)
    have unopened : byteLength kept < 2 → ∀ span ∈
        (⟨offset, offset + 2 + byteLength inner + 2⟩ :: comments : List Span),
        offset + byteLength kept < span.start + 2 := by
      intro little span member
      rcases List.mem_cons.mp member with rfl | later
      · dsimp only
        omega
      · have := commentsBehind span later
        omega
    rcases comment_cut closes early unfinished with rfl | rfl | ⟨commented, absent⟩
    · exact ⟨_, body_nil opening offset, .of_ahead opening (unopened (by decide)) quotesBehind⟩
    · refine ⟨_, ?_, .of_ahead opening (unopened (by decide)) quotesBehind⟩
      rw [body_of_plain opening offset (by decide), body_nil]
    · have long : 2 ≤ byteLength kept := by
        obtain ⟨more, rfl⟩ := commented
        rw [byteLength_append]
        exact Nat.le_add_right _ _
      refine ⟨_, ?_, @CutError.in_comment opening _ _ _ ⟨offset, _⟩ ?_ ?_ commentsBehind
        quotesBehind⟩
      · rw [body_of_comment opening offset commented, absent]
      · dsimp only
        omega
      · dsimp only
        omega

theorem FailsCut.string {piece : List Char} (quoted : char = '\x22' ∨ char = '\x27')
    (ends : splitString? char literal = some (literal, []))
    (fails : FailsCut opening (offset + 1 + byteLength literal) piece comments quotes)
    (commentsAhead : Ahead (offset + 1 + byteLength literal) comments)
    (quotesAhead : Ahead (offset + 1 + byteLength literal) quotes) :
    FailsCut opening offset (char :: literal ++ piece) comments
      (⟨offset, offset + 1 + byteLength literal⟩ :: quotes) := by
  intro kept gap parts nonempty
  have width : byteLength (char :: literal) = 1 + byteLength literal := by
    rw [byteLength_cons, utf8Size_of_quote quoted]
  rcases kept_or_cut parts with ⟨more, rfl, rest⟩ | ⟨missing, unfinished, early⟩
  · obtain ⟨error, failed, cut⟩ := fails more gap rest nonempty
    refine ⟨error, ?_, ?_⟩
    · rw [List.cons_append, body_of_string opening offset _ quoted, splitString?_append ends]
      exact failed
    · rw [byteLength_append, width, ← Nat.add_assoc, ← Nat.add_assoc]
      exact cut.cons_string (Nat.le_add_right _ _)
  · have short : byteLength kept < 1 + byteLength literal := by
      have total := congrArg byteLength early
      have := byteLength_pos unfinished
      rw [width, byteLength_append] at total
      omega
    have commentsBehind := commentsAhead.mono (c := offset + byteLength kept) (by omega)
    have quotesBehind := quotesAhead.mono (c := offset + byteLength kept) (by omega)
    cases kept with
    | nil =>
        refine ⟨_, body_nil opening offset, .of_ahead opening ?_ ?_⟩
        · intro span member
          have := commentsBehind span member
          omega
        · intro span member
          rcases List.mem_cons.mp member with rfl | later
          · exact Nat.le_refl _
          · exact quotesBehind span later
    | cons first kept =>
        obtain ⟨rfl, rfl⟩ := List.cons.inj early
        have cutShort : kept.length < (kept ++ missing).length := by
          have := List.length_pos_iff.mpr unfinished
          rw [List.length_append]
          omega
        have absent := splitString?_eq_none_of_short ends cutShort
        refine ⟨_, ?_, @CutError.in_string opening _ _ _ ⟨offset, _⟩ ?_ ?_ commentsBehind
          quotesBehind⟩
        · rw [body_of_string opening offset _ quoted, absent]
        · have := byteLength_pos (List.cons_ne_nil char kept)
          dsimp only
          omega
        · dsimp only
          omega

theorem FailsCut.plain {piece : List Char} (plain : Plain char piece)
    (fails : FailsCut opening (offset + char.utf8Size) piece comments quotes)
    (commentsAhead : Ahead (offset + char.utf8Size) comments)
    (quotesAhead : Ahead (offset + char.utf8Size) quotes) :
    FailsCut opening offset (char :: piece) comments quotes := by
  intro kept gap parts nonempty
  cases kept with
  | nil =>
      apply fails_of_nil opening
      · exact commentsAhead.mono (Nat.le_add_right _ _)
      · exact quotesAhead.mono (Nat.le_add_right _ _)
  | cons first kept =>
      obtain ⟨rfl, rfl⟩ := List.cons.inj parts
      obtain ⟨error, failed, cut⟩ := fails kept gap rfl nonempty
      rw [Nat.add_assoc, ← byteLength_cons] at cut
      exact ⟨error, (body_of_plain opening offset plain.of_append).trans failed, cut⟩

/-- **Bodies that are cut off.** A body of which only a part is left fails in that part, at the
comment or the string that the cut goes through, or for want of a closing marker. -/
theorem body_cut (read : body opening offset text = .ok (found, rest)) :
    ∃ inside, text = inside ++ closeMarker found.trimRight ++ rest ∧
      FailsCut opening offset (inside ++ closeMarker found.trimRight) found.comments
        (strings offset inside) := by
  fun_induction body opening offset text generalizing found with
  | case1 => cases read
  | case2 => cases read
  | case3 offset c text commented inner after ends ih =>
      obtain ⟨⟨nested, behind⟩, inner_read, joined⟩ := exists_of_map_eq_ok read
      cases joined
      obtain ⟨inside, parts, fails⟩ := ih inner_read
      have closes := breakAt?_alone ends
      refine ⟨['/', '*'] ++ inner ++ ['*', '/'] ++ inside, ?_, ?_⟩
      · rw [append_of_comment commented ends, parts, List.append_assoc _ inside,
          List.append_assoc _ (inside ++ _)]
        rfl
      · rw [List.append_assoc _ inside, strings_of_written_comment offset closes]
        exact fails.comment closes (le_start_of_comments inner_read) (le_start_of_strings _ inside)
  | case4 offset c text _ trimmed =>
      cases read
      obtain ⟨rest, parts⟩ := trimmed
      rw [← parts]
      refine ⟨[], rfl, ?_⟩
      rw [strings_nil]
      exact failsCut_closing opening offset true
  | case5 offset c text _ _ closed =>
      cases read
      obtain ⟨rest, parts⟩ := closed
      rw [← parts]
      refine ⟨[], rfl, ?_⟩
      rw [strings_nil]
      exact failsCut_closing opening offset false
  | case6 => cases read
  | case7 offset c text _ _ _ quoted literal after ends ih =>
      obtain ⟨inside, parts, fails⟩ := ih read
      have alone := splitString?_alone ends
      refine ⟨c :: literal ++ inside, ?_, ?_⟩
      · rw [append_of_splitString? ends, parts, List.append_assoc _ inside,
          List.append_assoc _ (inside ++ _)]
        rfl
      · rw [List.append_assoc _ inside, strings_of_written_string offset quoted alone]
        exact fails.string quoted alone (le_start_of_comments read) (le_start_of_strings _ inside)
  | case8 offset c text uncommented untrimmed unclosed unquoted ih =>
      obtain ⟨inside, parts, fails⟩ := ih read
      have plain : Plain c text := ⟨uncommented, untrimmed, unclosed, unquoted⟩
      rw [parts, List.append_assoc] at plain
      refine ⟨c :: inside, by rw [parts]; rfl, ?_⟩
      rw [strings_of_plain offset plain.of_append]
      rw [← List.append_assoc] at plain
      exact fails.plain plain.of_append (le_start_of_comments read) (le_start_of_strings _ inside)

end Outline

end TemplateScan
