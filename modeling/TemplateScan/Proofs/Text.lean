import TemplateScan.Source

/-! # Texts, the first place of a marker, and quoted strings

What is said here about characters is the plain side of what hosts do by bytes and by probes: how
long a text is, where a marker first stands in it (`breakAt?_eq_some_iff`), and where a quoted
string ends.
-/

namespace TemplateScan

@[simp] theorem byteLength_nil : byteLength [] = 0 := rfl

@[simp] theorem byteLength_cons (c : Char) (text : List Char) :
    byteLength (c :: text) = c.utf8Size + byteLength text := rfl

@[simp] theorem byteLength_append (front back : List Char) :
    byteLength (front ++ back) = byteLength front + byteLength back := by
  induction front with
  | nil => exact (Nat.zero_add _).symm
  | cons c front ih =>
      rw [List.cons_append, byteLength_cons, ih, byteLength_cons, Nat.add_assoc]

theorem byteLength_pos {text : List Char} (nonempty : text ≠ []) : 0 < byteLength text := by
  cases text with
  | nil => exact absurd rfl nonempty
  | cons c text =>
      have := c.utf8Size_pos
      rw [byteLength_cons]
      omega

/-- The text in front of the first place where `marker` stands, and the text from that place on. -/
def breakAt? (marker : List Char) : List Char → Option (List Char × List Char)
  | [] => if marker = [] then some ([], []) else none
  | c :: text =>
      if marker <+: c :: text then some ([], c :: text)
      else (breakAt? marker text).map fun parts => (c :: parts.1, parts.2)

/-- The number of bytes in front of the first place where `marker` stands. -/
def firstAt? (marker text : List Char) : Option Nat :=
  (breakAt? marker text).map fun parts => byteLength parts.1

theorem breakAt?_cons_of_marked {marker text : List Char} {c : Char}
    (here : marker <+: c :: text) : breakAt? marker (c :: text) = some ([], c :: text) := by
  rw [breakAt?, if_pos here]

theorem breakAt?_cons_of_unmarked {marker text : List Char} {c : Char}
    (elsewhere : ¬ marker <+: c :: text) :
    breakAt? marker (c :: text) =
      (breakAt? marker text).map fun parts => (c :: parts.1, parts.2) := by
  rw [breakAt?, if_neg elsewhere]

/-- A place found is a place of the marker, and nothing of the text is lost. -/
theorem append_of_breakAt? {marker text before after : List Char}
    (found : breakAt? marker text = some (before, after)) :
    text = before ++ after ∧ marker <+: after := by
  induction text generalizing before with
  | nil =>
      cases marker with
      | nil =>
          simp only [breakAt?, ↓reduceIte, Option.some.injEq, Prod.mk.injEq] at found
          obtain ⟨rfl, rfl⟩ := found
          exact ⟨rfl, List.nil_prefix⟩
      | cons m marker => simp [breakAt?] at found
  | cons c text ih =>
      by_cases here : marker <+: c :: text
      · rw [breakAt?_cons_of_marked here] at found
        cases found
        exact ⟨rfl, here⟩
      · rw [breakAt?_cons_of_unmarked here] at found
        obtain ⟨⟨front, back⟩, inner, joined⟩ := Option.map_eq_some_iff.mp found
        cases joined
        obtain ⟨rfl, marked⟩ := ih inner
        exact ⟨rfl, marked⟩

/-- No earlier place than the one found is a place of the marker. -/
theorem length_le_of_breakAt? {marker text before after front back : List Char}
    (found : breakAt? marker text = some (before, after)) (parts : text = front ++ back)
    (marked : marker <+: back) : before.length ≤ front.length := by
  induction text generalizing before front with
  | nil =>
      cases marker with
      | nil =>
          simp only [breakAt?, ↓reduceIte, Option.some.injEq, Prod.mk.injEq] at found
          rw [← found.1]
          exact Nat.zero_le _
      | cons m marker => simp [breakAt?] at found
  | cons c text ih =>
      by_cases here : marker <+: c :: text
      · rw [breakAt?_cons_of_marked here] at found
        cases found
        exact Nat.zero_le _
      · rw [breakAt?_cons_of_unmarked here] at found
        obtain ⟨⟨inner, _⟩, nested, joined⟩ := Option.map_eq_some_iff.mp found
        cases joined
        cases front with
        | nil => exact absurd (by rw [parts]; exact marked) here
        | cons d front =>
            simp only [List.cons_append, List.cons.injEq] at parts
            exact Nat.succ_le_succ (ih nested parts.2)

theorem breakAt?_of_marked {marker text : List Char} (here : marker <+: text) :
    breakAt? marker text = some ([], text) := by
  cases text with
  | nil => rw [breakAt?, if_pos (List.prefix_nil.mp here)]
  | cons c text => exact breakAt?_cons_of_marked here

/-- A break behind the start of a text leaves something in front of it. -/
theorem ne_nil_of_breakAt? {marker text before after : List Char}
    (found : breakAt? marker text = some (before, after)) (unmarked : ¬ marker <+: text) :
    before ≠ [] := by
  rintro rfl
  obtain ⟨rfl, marked⟩ := append_of_breakAt? found
  exact unmarked marked

theorem not_prefix_of_breakAt?_eq_none {marker text front back : List Char}
    (absent : breakAt? marker text = none) (parts : text = front ++ back) :
    ¬ marker <+: back := by
  intro marked
  induction text generalizing front with
  | nil =>
      obtain ⟨rfl, rfl⟩ := List.nil_eq_append_iff.mp parts
      rw [List.prefix_nil.mp marked] at absent
      simp [breakAt?] at absent
  | cons c text ih =>
      have elsewhere : ¬ marker <+: c :: text := by
        intro here
        rw [breakAt?_cons_of_marked here] at absent
        cases absent
      rw [breakAt?_cons_of_unmarked elsewhere, Option.map_eq_none_iff] at absent
      cases front with
      | nil => exact elsewhere (by rw [parts]; exact marked)
      | cons d front =>
          simp only [List.cons_append, List.cons.injEq] at parts
          exact ih absent parts.2

/-- The place found is the first one: a break there and a place of the marker that no other
precedes are the same thing. -/
theorem breakAt?_eq_some_iff {marker text before after : List Char} :
    breakAt? marker text = some (before, after) ↔
      (text = before ++ after ∧ marker <+: after) ∧
        ∀ front back, text = front ++ back → marker <+: back → before.length ≤ front.length := by
  constructor
  · intro found
    exact ⟨append_of_breakAt? found, fun front back => length_le_of_breakAt? found⟩
  · rintro ⟨⟨parts, marked⟩, first⟩
    cases found : breakAt? marker text with
    | none => exact absurd marked (not_prefix_of_breakAt?_eq_none found parts)
    | some result =>
        obtain ⟨front, back⟩ := result
        obtain ⟨split, here⟩ := append_of_breakAt? found
        have same : front.length = before.length :=
          Nat.le_antisymm (length_le_of_breakAt? found parts marked) (first front back split here)
        rw [split] at parts
        obtain ⟨rfl, rfl⟩ := List.append_inj parts same
        rfl

/-- There is no break exactly where the marker stands nowhere. -/
theorem breakAt?_eq_none_iff {marker text : List Char} :
    breakAt? marker text = none ↔ ∀ front back, text = front ++ back → ¬ marker <+: back := by
  constructor
  · intro absent front back
    exact not_prefix_of_breakAt?_eq_none absent
  · intro nowhere
    cases found : breakAt? marker text with
    | none => rfl
    | some result =>
        obtain ⟨split, here⟩ := append_of_breakAt? found
        exact absurd here (nowhere _ _ split)

theorem breakAt?_eq_none_iff_not_infix {marker text : List Char} :
    breakAt? marker text = none ↔ ¬ marker <:+: text := by
  rw [breakAt?_eq_none_iff]
  constructor
  · rintro nowhere ⟨front, back, rfl⟩
    exact nowhere front (marker ++ back) (List.append_assoc _ _ _) (List.prefix_append marker back)
  · rintro absent front back rfl ⟨more, rfl⟩
    exact absent ⟨front, more, List.append_assoc _ _ _⟩

/-! ### Text that is added behind or cut off -/

theorem isPrefix_append_iff {marker front : List Char} (back : List Char)
    (fits : marker.length ≤ front.length) : marker <+: front ++ back ↔ marker <+: front := by
  constructor
  · intro here
    exact List.prefix_of_prefix_length_le here (List.prefix_append front back) fits
  · intro here
    exact here.trans (List.prefix_append front back)

/-- A cut through a text falls behind its front, or inside it. -/
theorem kept_or_cut {front back kept dropped : List Char}
    (parts : front ++ back = kept ++ dropped) :
    (∃ more, kept = front ++ more ∧ back = more ++ dropped) ∨
      ∃ gap, gap ≠ [] ∧ front = kept ++ gap := by
  rcases List.append_eq_append_iff.mp parts with behind | ⟨gap, rfl, rfl⟩
  · exact .inl behind
  · by_cases empty : gap = []
    · subst empty
      exact .inl ⟨[], by rw [List.append_nil, List.append_nil], rfl⟩
    · exact .inr ⟨gap, empty, rfl⟩

theorem append_of_byteLength_le {front back kept dropped : List Char}
    (parts : front ++ back = kept ++ dropped) (reached : byteLength front ≤ byteLength kept) :
    ∃ more, kept = front ++ more ∧ back = more ++ dropped := by
  rcases kept_or_cut parts with behind | ⟨gap, nonempty, rfl⟩
  · exact behind
  · have := byteLength_pos nonempty
    rw [byteLength_append] at reached
    omega

theorem append_inj_of_byteLength {front back front' back' : List Char}
    (parts : front ++ back = front' ++ back') (widths : byteLength front = byteLength front') :
    front = front' ∧ back = back' := by
  obtain ⟨more, rfl, rfl⟩ := append_of_byteLength_le parts (Nat.le_of_eq widths)
  cases more with
  | nil => exact ⟨(List.append_nil front).symm, rfl⟩
  | cons c more =>
      have := byteLength_pos (List.cons_ne_nil c more)
      rw [byteLength_append] at widths
      omega

/-- Text added behind a break does not move it. -/
theorem breakAt?_append {marker text before after : List Char}
    (found : breakAt? marker text = some (before, after)) (more : List Char) :
    breakAt? marker (text ++ more) = some (before, after ++ more) := by
  induction text generalizing before with
  | nil =>
      obtain ⟨parts, marked⟩ := append_of_breakAt? found
      obtain ⟨rfl, rfl⟩ := List.nil_eq_append_iff.mp parts
      rw [List.prefix_nil.mp marked]
      exact breakAt?_of_marked List.nil_prefix
  | cons c text ih =>
      by_cases here : marker <+: c :: text
      · rw [breakAt?_cons_of_marked here] at found
        cases found
        exact breakAt?_of_marked (here.trans (List.prefix_append _ more))
      · rw [breakAt?_cons_of_unmarked here] at found
        obtain ⟨⟨inner, back⟩, nested, joined⟩ := Option.map_eq_some_iff.mp found
        cases joined
        have fits : marker.length ≤ (c :: text).length := by
          obtain ⟨rfl, marked⟩ := append_of_breakAt? nested
          have := marked.length_le
          simp only [List.length_cons, List.length_append]
          omega
        rw [← isPrefix_append_iff more fits, List.cons_append] at here
        rw [List.cons_append, breakAt?_cons_of_unmarked here, ih nested]
        rfl

/-- A break needs no more of the text than its marker. -/
theorem breakAt?_alone {marker text before after : List Char}
    (found : breakAt? marker text = some (before, after)) :
    breakAt? marker (before ++ marker) = some (before, marker) := by
  obtain ⟨rfl, behind, rfl⟩ := append_of_breakAt? found
  refine breakAt?_eq_some_iff.mpr ⟨⟨rfl, List.prefix_rfl⟩, ?_⟩
  intro front back parts marked
  have whole : before ++ (marker ++ behind) = front ++ (back ++ behind) := by
    rw [← List.append_assoc, ← List.append_assoc, parts]
  exact length_le_of_breakAt? found whole (marked.trans (List.prefix_append back behind))

/-- A text that is cut off in front of the end of the first marker has none. -/
theorem breakAt?_eq_none_of_short {marker kept dropped before after : List Char}
    (found : breakAt? marker (kept ++ dropped) = some (before, after))
    (short : kept.length < before.length + marker.length) : breakAt? marker kept = none := by
  refine breakAt?_eq_none_iff.mpr ?_
  rintro front back rfl marked
  have first := length_le_of_breakAt? found (List.append_assoc front back dropped)
    (marked.trans (List.prefix_append back dropped))
  have := marked.length_le
  rw [List.length_append] at short
  omega

theorem breakAt?_eq_none_of_append {marker kept dropped : List Char}
    (absent : breakAt? marker (kept ++ dropped) = none) : breakAt? marker kept = none := by
  refine breakAt?_eq_none_iff.mpr ?_
  rintro front back rfl marked
  exact not_prefix_of_breakAt?_eq_none absent (List.append_assoc front back dropped)
    (marked.trans (List.prefix_append back dropped))

theorem pair_isPrefix_cons_iff {first second c : Char} {text : List Char} :
    [first, second] <+: c :: text ↔ c = first ∧ text.head? = some second := by
  rw [List.cons_prefix_cons]
  cases text with
  | nil => simp
  | cons d text =>
      rw [List.cons_prefix_cons, List.head?_cons, Option.some.injEq]
      constructor
      · rintro ⟨rfl, rfl, _⟩
        exact ⟨rfl, rfl⟩
      · rintro ⟨rfl, rfl⟩
        exact ⟨rfl, rfl, List.nil_prefix⟩

/-- A marker of two characters that differ cannot stand across the place where one begins. -/
theorem breakAt?_append_of_none {first second : Char} {front back : List Char}
    (different : first ≠ second) (absent : breakAt? [first, second] front = none)
    (marked : [first, second] <+: back) :
    breakAt? [first, second] (front ++ back) = some (front, back) := by
  induction front with
  | nil => exact breakAt?_of_marked marked
  | cons c front ih =>
      have elsewhere := not_prefix_of_breakAt?_eq_none absent (List.nil_append _).symm
      have unmarked : ¬ [first, second] <+: c :: (front ++ back) := by
        rw [pair_isPrefix_cons_iff]
        rintro ⟨rfl, follows⟩
        cases front with
        | nil =>
            obtain ⟨behind, rfl⟩ := marked
            exact different (Option.some.inj follows)
        | cons d front => exact elsewhere (pair_isPrefix_cons_iff.mpr ⟨rfl, follows⟩)
      rw [breakAt?_cons_of_unmarked elsewhere, Option.map_eq_none_iff] at absent
      rw [List.cons_append, breakAt?_cons_of_unmarked unmarked, ih absent]
      rfl

/-- The parts of a comment and of the text behind it. -/
theorem append_of_comment {text inner after : List Char} (opening : ['/', '*'] <+: text)
    (found : breakAt? ['*', '/'] (text.drop 2) = some (inner, after)) :
    text = ['/', '*'] ++ inner ++ ['*', '/'] ++ after.drop 2 := by
  obtain ⟨rest, rfl⟩ := opening
  obtain ⟨split, back, rfl⟩ := append_of_breakAt? found
  have split : rest = inner ++ (['*', '/'] ++ back) := split
  rw [split, List.append_assoc, List.append_assoc]
  rfl

/-- A text behind an opening quote, cut behind the first equal quote that no backslash escapes. -/
def splitString? (quote : Char) : List Char → Option (List Char × List Char)
  | [] => none
  | c :: text =>
      if c = quote then some ([c], text)
      else if c = '\\' then
        match text with
        | [] => none
        | escaped :: text =>
            (splitString? quote text).map fun parts => (c :: escaped :: parts.1, parts.2)
      else (splitString? quote text).map fun parts => (c :: parts.1, parts.2)

theorem splitString?_cons_quote (quote : Char) (text : List Char) :
    splitString? quote (quote :: text) = some ([quote], text) := by
  unfold splitString?
  rw [if_pos rfl]

theorem splitString?_cons_escape {quote : Char} (different : ¬ '\\' = quote) (escaped : Char)
    (text : List Char) :
    splitString? quote ('\\' :: escaped :: text) =
      (splitString? quote text).map fun parts => ('\\' :: escaped :: parts.1, parts.2) := by
  conv => lhs; unfold splitString?
  rw [if_neg different, if_pos rfl]

theorem splitString?_cons_plain {quote c : Char} (different : ¬ c = quote) (plain : ¬ c = '\\')
    (text : List Char) :
    splitString? quote (c :: text) =
      (splitString? quote text).map fun parts => (c :: parts.1, parts.2) := by
  conv => lhs; unfold splitString?
  rw [if_neg different, if_neg plain]

theorem append_of_splitString? {quote : Char} {text literal after : List Char}
    (found : splitString? quote text = some (literal, after)) : text = literal ++ after := by
  fun_induction splitString? quote text generalizing literal with
  | case1 => cases found
  | case2 text => cases found; rfl
  | case3 => cases found
  | case4 escaped text different ih =>
      obtain ⟨⟨inner, back⟩, inside, joined⟩ := Option.map_eq_some_iff.mp found
      cases joined
      rw [ih inside]
      rfl
  | case5 c text different plain ih =>
      obtain ⟨⟨inner, back⟩, inside, joined⟩ := Option.map_eq_some_iff.mp found
      cases joined
      rw [ih inside]
      rfl

/-- Text added behind a string does not change where the string ends. -/
theorem splitString?_append {quote : Char} {text literal after : List Char}
    (found : splitString? quote text = some (literal, after)) (more : List Char) :
    splitString? quote (text ++ more) = some (literal, after ++ more) := by
  fun_induction splitString? quote text generalizing literal with
  | case1 => cases found
  | case2 text =>
      cases found
      exact splitString?_cons_quote quote _
  | case3 => cases found
  | case4 escaped text different ih =>
      obtain ⟨⟨inner, back⟩, inside, joined⟩ := Option.map_eq_some_iff.mp found
      cases joined
      rw [List.cons_append, List.cons_append, splitString?_cons_escape different, ih inside]
      rfl
  | case5 c text different plain ih =>
      obtain ⟨⟨inner, back⟩, inside, joined⟩ := Option.map_eq_some_iff.mp found
      cases joined
      rw [List.cons_append, splitString?_cons_plain different plain, ih inside]
      rfl

/-- A string needs no more of the text than itself. -/
theorem splitString?_alone {quote : Char} {text literal after : List Char}
    (found : splitString? quote text = some (literal, after)) :
    splitString? quote literal = some (literal, []) := by
  fun_induction splitString? quote text generalizing literal with
  | case1 => cases found
  | case2 text =>
      cases found
      exact splitString?_cons_quote quote []
  | case3 => cases found
  | case4 escaped text different ih =>
      obtain ⟨⟨inner, back⟩, inside, joined⟩ := Option.map_eq_some_iff.mp found
      cases joined
      rw [splitString?_cons_escape different, ih inside]
      rfl
  | case5 c text different plain ih =>
      obtain ⟨⟨inner, back⟩, inside, joined⟩ := Option.map_eq_some_iff.mp found
      cases joined
      rw [splitString?_cons_plain different plain, ih inside]
      rfl

theorem splitString?_eq_none_of_short {quote : Char} {kept dropped literal after : List Char}
    (found : splitString? quote (kept ++ dropped) = some (literal, after))
    (short : kept.length < literal.length) : splitString? quote kept = none := by
  cases early : splitString? quote kept with
  | none => rfl
  | some parts =>
      obtain ⟨shorter, behind⟩ := parts
      rw [splitString?_append early dropped] at found
      cases found
      rw [append_of_splitString? early, List.length_append] at short
      omega

/-! ### Rows of texts -/

/-- Two rows with one text are the same row, if the text of a row tells what stands first in it. -/
theorem eq_of_flatMap_eq {α : Type} {text : α → List Char} {Written : List α → Prop}
    (nonempty : ∀ a row, Written (a :: row) → text a ≠ [])
    (later : ∀ a row, Written (a :: row) → Written row)
    (first : ∀ a b row others, Written (a :: row) → Written (b :: others) →
      (a :: row).flatMap text = (b :: others).flatMap text → a = b)
    {row others : List α} (left : Written row) (right : Written others)
    (same : row.flatMap text = others.flatMap text) : row = others := by
  have filled : ∀ a row, Written (a :: row) → (a :: row).flatMap text ≠ [] := by
    intro a row written
    rw [List.flatMap_cons]
    exact List.append_ne_nil_of_left_ne_nil (nonempty a row written) _
  induction row generalizing others with
  | nil =>
      cases others with
      | nil => rfl
      | cons b others => exact absurd same.symm (filled b others right)
  | cons a row ih =>
      cases others with
      | nil => exact absurd same (filled a row left)
      | cons b others =>
          obtain rfl := first a b row others left right same
          rw [List.flatMap_cons, List.flatMap_cons, List.append_cancel_left_eq] at same
          rw [ih (later a row left) (later a others right) same]

end TemplateScan
