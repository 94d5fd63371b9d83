import TemplateScan.Proofs.Source.Characters
import TemplateScan.Source.Position

/-! # Places by reading

The place of an offset is where a reader is who has read all characters in front of it: a newline
leads to the first column of the next line, any other character to the next column
(`Position.behind`). Lines can be counted and the last newline be looked for by bytes, since a byte
of a newline is a newline (`Source.positionByBytes`); it comes to the same. Reading on never goes
back, so places are in the order of their offsets, and no two characters start at one place
(`Source.numbered_positions`).
-/

namespace TemplateScan

namespace Position

/-- The place behind a character that stands at a place. -/
def next (place : Position) (c : Char) : Position :=
  if c = '\n' then ⟨place.line + 1, 1⟩ else ⟨place.line, place.column + 1⟩

/-- The place behind a text that starts at the first column of the first line. -/
def behind (text : List Char) : Position :=
  text.foldl next ⟨1, 1⟩

/-- A place is on an earlier line than another, or earlier on the same line. -/
def Before (place other : Position) : Prop :=
  place.line < other.line ∨ place.line = other.line ∧ place.column < other.column

theorem Before.trans {first second third : Position} (before : first.Before second)
    (later : second.Before third) : first.Before third := by
  unfold Before at before later ⊢
  omega

theorem Before.ne {place other : Position} (before : place.Before other) : place ≠ other := by
  rintro rfl
  unfold Before at before
  omega

theorem before_next (place : Position) (c : Char) : place.Before (place.next c) := by
  unfold next
  split
  · exact .inl (Nat.lt_succ_self _)
  · exact .inr ⟨rfl, Nat.lt_succ_self _⟩

/-- Reading goes forward. -/
theorem before_foldl {text : List Char} (nonempty : text ≠ []) (place : Position) :
    place.Before (text.foldl next place) := by
  induction text generalizing place with
  | nil => exact absurd rfl nonempty
  | cons c text ih =>
      have first := place.before_next c
      cases text with
      | nil => exact first
      | cons d text => exact first.trans (ih (List.cons_ne_nil d text) (place.next c))

/-- Behind more text is the same place or a later one. -/
theorem behind_le_of_isPrefix {front text : List Char} (starts : front <+: text) :
    behind front = behind text ∨ (behind front).Before (behind text) := by
  obtain ⟨back, rfl⟩ := starts
  rw [behind, behind, List.foldl_append]
  by_cases empty : back = []
  · subst empty
    exact .inl rfl
  · exact .inr (before_foldl empty _)

/-- The line is told by the newlines of a text, and the column by what stands behind the last. -/
theorem behind_eq (text : List Char) :
    behind text =
      ⟨text.count '\n' + 1, (text.reverse.takeWhile (· != '\n')).length + 1⟩ := by
  have reversed : ∀ reversed : List Char, behind reversed.reverse =
      ⟨reversed.count '\n' + 1, (reversed.takeWhile (· != '\n')).length + 1⟩ := by
    intro reversed
    induction reversed with
    | nil => rfl
    | cons c reversed ih =>
        rw [List.reverse_cons, behind, List.foldl_append, ← behind, ih, List.foldl_cons,
          List.foldl_nil, next]
        by_cases newline : c = '\n'
        · subst newline
          simp
        · simp [newline]
  have whole := reversed text.reverse
  rwa [List.reverse_reverse, List.count_reverse] at whole

end Position

/-! ### The characters within some bytes -/

/-- The characters of a text that lie wholly within its first bytes. -/
def charsWithin : Nat → List Char → List Char
  | _, [] => []
  | bytes, c :: text =>
      if c.utf8Size ≤ bytes then c :: charsWithin (bytes - c.utf8Size) text else []

theorem charsWithin_parts (bytes : Nat) (text : List Char) :
    ∃ rest, text = charsWithin bytes text ++ rest ∧ byteLength (charsWithin bytes text) ≤ bytes ∧
      ∀ c more, rest = c :: more → bytes < byteLength (charsWithin bytes text) + c.utf8Size := by
  induction text generalizing bytes with
  | nil => exact ⟨[], rfl, Nat.zero_le _, fun _ _ impossible => nomatch impossible⟩
  | cons c text ih =>
      rw [charsWithin]
      split
      · next fits =>
          obtain ⟨rest, parts, within, full⟩ := ih (bytes - c.utf8Size)
          refine ⟨rest, congrArg (c :: ·) parts, ?_, ?_⟩
          · rw [byteLength_cons]
            omega
          · intro d more follows
            have := full d more follows
            rw [byteLength_cons]
            omega
      · next large =>
          refine ⟨c :: text, rfl, Nat.zero_le _, ?_⟩
          rintro d more follows
          cases follows
          rw [byteLength_nil]
          omega

/-- All of the text in front of a character is within its bytes, and those inside the character add
nothing to it. -/
theorem charsWithin_append {front back : List Char} {i : Nat}
    (inside : ∀ c more, back = c :: more → i < c.utf8Size) :
    charsWithin (byteLength front + i) (front ++ back) = front := by
  induction front with
  | nil =>
      cases back with
      | nil => rfl
      | cons c more =>
          have short := inside c more rfl
          rw [List.nil_append, byteLength_nil, charsWithin, if_neg (by omega)]
  | cons c front ih =>
      have less : byteLength (c :: front) + i - c.utf8Size = byteLength front + i := by
        rw [byteLength_cons]
        omega
      rw [List.cons_append, charsWithin, if_pos (by rw [byteLength_cons]; omega), less, ih]

theorem charsWithin_isPrefix {bytes more : Nat} (fewer : bytes ≤ more) (text : List Char) :
    charsWithin bytes text <+: charsWithin more text := by
  induction text generalizing bytes more with
  | nil => exact List.nil_prefix
  | cons c text ih =>
      rw [charsWithin]
      split
      · next fits =>
          rw [charsWithin, if_pos (by omega), List.cons_prefix_cons]
          exact ⟨rfl, ih (by omega)⟩
      · exact List.nil_prefix

namespace Source

variable {source : Source} {offset : Nat} {text front back : List Char} {c : Char}

/-! ### Counting by bytes -/

/-- The byte of a newline. -/
def newline : UInt8 :=
  0x0A

/-- The last offset in front of a bound that holds a byte. -/
def lastByte? (source : Source) (byte : UInt8) : Nat → Option Nat
  | 0 => none
  | bound + 1 =>
      if source.byteAt bound = byte then some bound else source.lastByte? byte bound

/-- How many offsets in front of a bound hold a byte. -/
def countByte (source : Source) (byte : UInt8) : Nat → Nat
  | 0 => 0
  | bound + 1 => source.countByte byte bound + if source.byteAt bound = byte then 1 else 0

/-- The place of the end of a source by its bytes: the newlines are counted, and the text behind the
last of them is cut out. -/
def endByBytes (source : Source) : Checked Position := do
  let lineStart := (source.lastByte? newline source.size).elim 0 (· + 1)
  let line ← source.cut ⟨lineStart, source.size⟩
  return ⟨source.countByte newline source.size + 1, line.length + 1⟩

/-- The place of an offset by bytes: the end of the text in front of it. -/
def positionByBytes (source : Source) (offset : Nat) : Checked Position := do
  let before ← source.cut ⟨0, source.floorBoundary (min offset source.size)⟩
  (ofText before).endByBytes

theorem lastByte?_add {byte : UInt8} {width : Nat}
    (other : ∀ i < width, source.byteAt (offset + i) ≠ byte) :
    source.lastByte? byte (offset + width) = source.lastByte? byte offset := by
  induction width with
  | zero => rfl
  | succ width ih =>
      rw [← Nat.add_assoc, lastByte?, if_neg (other width (Nat.lt_succ_self width))]
      exact ih fun i inside => other i (Nat.lt_succ_of_lt inside)

theorem countByte_add {byte : UInt8} {width : Nat}
    (other : ∀ i < width, source.byteAt (offset + i) ≠ byte) :
    source.countByte byte (offset + width) = source.countByte byte offset := by
  induction width with
  | zero => rfl
  | succ width ih =>
      rw [← Nat.add_assoc, countByte, if_neg (other width (Nat.lt_succ_self width)), Nat.add_zero]
      exact ih fun i inside => other i (Nat.lt_succ_of_lt inside)

namespace LeavesAt

theorem byteAt_ne_newline (left : source.LeavesAt offset (c :: text)) (other : c ≠ '\n') :
    ∀ i < c.utf8Size, source.byteAt (offset + i) ≠ newline := by
  intro i inside same
  exact other ((byte_eq_ascii_iff (d := '\n') rfl (left.byteAt_eq inside)).mp same)

theorem byteAt_newline (left : source.LeavesAt offset ('\n' :: text)) :
    source.byteAt offset = newline :=
  (byte_eq_ascii_iff (d := '\n') rfl left.lead_eq).mpr rfl

theorem countByte_eq (left : source.LeavesAt offset (front ++ back)) :
    source.countByte newline (offset + byteLength front) =
      source.countByte newline offset + front.count '\n' := by
  induction front generalizing offset with
  | nil => rfl
  | cons c front ih =>
      rw [byteLength_cons, ← Nat.add_assoc, ih left.tail, List.count_cons]
      by_cases same : c = '\n'
      · subst same
        have step : source.countByte newline (offset + '\n'.utf8Size) =
            source.countByte newline offset + 1 := by
          change source.countByte newline (offset + 1) = _
          rw [countByte, if_pos left.byteAt_newline]
        rw [step, beq_self_eq_true, if_pos rfl]
        omega
      · rw [countByte_add (left.byteAt_ne_newline same), beq_false_of_ne same]
        rfl

theorem lastByte?_eq (left : source.LeavesAt offset (front ++ back)) (single : '\n' ∉ front) :
    source.lastByte? newline (offset + byteLength front) =
      source.lastByte? newline offset := by
  induction front generalizing offset with
  | nil => rfl
  | cons c front ih =>
      rw [List.mem_cons, not_or] at single
      obtain ⟨other, single⟩ := single
      rw [byteLength_cons, ← Nat.add_assoc, ih left.tail single,
        lastByte?_add (left.byteAt_ne_newline (Ne.symm other))]

end LeavesAt

/-- A text is its lines up to the last newline, and what stands behind that. -/
theorem exists_lines (text : List Char) :
    ∃ lines line, text = lines ++ line ∧ '\n' ∉ line ∧
      line.length = (text.reverse.takeWhile (· != '\n')).length ∧
      (lines = [] ∨ ∃ earlier, lines = earlier ++ ['\n']) := by
  have parts := List.takeWhile_append_dropWhile (p := (· != '\n')) (l := text.reverse)
  refine ⟨(text.reverse.dropWhile (· != '\n')).reverse,
    (text.reverse.takeWhile (· != '\n')).reverse, ?_, ?_, List.length_reverse, ?_⟩
  · rw [← List.reverse_append, parts, List.reverse_reverse]
  · intro member
    have other := List.all_eq_true.mp List.all_takeWhile _ (List.mem_reverse.mp member)
    simp at other
  · cases rest : text.reverse.dropWhile (· != '\n') with
    | nil => exact .inl rfl
    | cons c rest' =>
        have stops := List.head_dropWhile_not (fun c => c != '\n') (l := text.reverse)
          (by rw [rest]; exact List.cons_ne_nil _ _)
        simp only [rest, List.head_cons, bne_eq_false_iff_eq] at stops
        rw [stops, List.reverse_cons]
        exact .inr ⟨rest'.reverse, rfl⟩

/-- Where the last line starts, looked for by bytes. -/
theorem lineStart_eq {lines line : List Char} (left : source.LeavesAt 0 (lines ++ line))
    (single : '\n' ∉ line) (ends : lines = [] ∨ ∃ earlier, lines = earlier ++ ['\n']) :
    (source.lastByte? newline source.size).elim 0 (· + 1) = byteLength lines := by
  have last := left.drop
  rw [Nat.zero_add] at last
  have behind := last
  rw [← List.append_nil line] at behind
  rw [← last.add_byteLength, behind.lastByte?_eq single]
  rcases ends with rfl | ⟨earlier, rfl⟩
  · rfl
  · rw [List.append_assoc] at left
    have here := left.drop
    rw [Nat.zero_add] at here
    have width : byteLength (earlier ++ ['\n']) = byteLength earlier + 1 := byteLength_append _ _
    rw [width, lastByte?, if_pos here.byteAt_newline]
    rfl

theorem countByte_size (source : Source) :
    source.countByte newline source.size = source.chars.count '\n' := by
  have whole := source.leavesAt_zero
  rw [← List.append_nil source.chars] at whole
  have count := whole.countByte_eq
  rw [byteLength_chars, Nat.zero_add] at count
  rw [count, countByte, Nat.zero_add]

/-- Counted by bytes, the place of the end is found without a fault. -/
theorem endByBytes_eq (source : Source) :
    source.endByBytes = .ok (Position.behind source.chars) := by
  obtain ⟨lines, line, parts, single, length, ends⟩ := exists_lines source.chars
  have whole := source.leavesAt_zero
  rw [parts] at whole
  have last := whole.drop
  rw [Nat.zero_add] at last
  have size := last.add_byteLength
  rw [← List.append_nil line] at last
  have cutOut := last.cut_eq
  rw [size] at cutOut
  rw [endByBytes, lineStart_eq whole single ends, cutOut, countByte_size, Position.behind_eq,
    ← length]
  change Except.ok (Position.mk _ (String.ofList line).length.succ) = _
  rw [String.length_ofList]

/-! ### The characters in front of an offset -/

theorem floorBoundary_eq {found bound : Nat} (boundary : source.isBoundary found = true)
    (reached : found ≤ bound)
    (last : ∀ other, found < other → other ≤ bound → source.isBoundary other = false) :
    source.floorBoundary bound = found := by
  induction bound with
  | zero => exact (Nat.le_zero.mp reached).symm
  | succ bound ih =>
      by_cases here : found = bound + 1
      · rw [floorBoundary, ← here, if_pos boundary]
      · have other := last (bound + 1) (by omega) (Nat.le_refl _)
        rw [floorBoundary, if_neg (by simp [other])]
        exact ih (by omega) fun place behind near => last place behind (by omega)

/-- Going back to a boundary leaves the characters that lie wholly in front. -/
theorem leavesAt_floorBoundary (source : Source) (bound : Nat) :
    source.floorBoundary bound = byteLength (charsWithin bound source.chars) ∧
      ∃ rest, source.chars = charsWithin bound source.chars ++ rest := by
  obtain ⟨rest, parts, within, full⟩ := charsWithin_parts bound source.chars
  have left : source.LeavesAt (byteLength (charsWithin bound source.chars)) rest :=
    ⟨_, parts, rfl⟩
  refine ⟨floorBoundary_eq left.isBoundary within ?_, rest, parts⟩
  intro other behind near
  apply Bool.eq_false_iff.mpr
  intro boundary
  obtain ⟨later, right⟩ := isBoundary_iff.mp boundary
  obtain ⟨between, split, rfl⟩ := left.split right (Nat.le_of_lt behind)
  cases between with
  | nil =>
      rw [byteLength_nil] at behind
      omega
  | cons c between =>
      have := full c _ split
      rw [byteLength_cons] at near
      omega

/-- The characters that lie wholly in front of an offset of a source. -/
def before (source : Source) (offset : Nat) : List Char :=
  charsWithin (min offset source.size) source.chars

theorem exists_append_before (source : Source) (offset : Nat) :
    source.floorBoundary (min offset source.size) = byteLength (source.before offset) ∧
      ∃ rest, source.LeavesAt 0 (source.before offset ++ rest) := by
  obtain ⟨floor, rest, parts⟩ := source.leavesAt_floorBoundary (min offset source.size)
  refine ⟨floor, rest, ?_⟩
  have whole := source.leavesAt_zero
  rwa [parts] at whole

theorem position_eq (source : Source) (offset : Nat) :
    source.position offset = Position.behind (source.before offset) := by
  obtain ⟨floor, rest, left⟩ := source.exists_append_before offset
  have text := left.slice_eq
  rw [Nat.zero_add, ← floor] at text
  rw [position, text, String.toList_ofList, Position.behind_eq]

theorem LeavesAt.before_eq {i : Nat} (left : source.LeavesAt offset text)
    (inside : ∀ c more, text = c :: more → i < c.utf8Size) (bound : offset + i ≤ source.size) :
    ∃ front, source.chars = front ++ text ∧ source.before (offset + i) = front := by
  obtain ⟨front, parts, rfl⟩ := left
  refine ⟨front, parts, ?_⟩
  rw [before, Nat.min_eq_left bound, parts, charsWithin_append inside]

/-- At a boundary all of the text in front lies in front. -/
theorem LeavesAt.before_append (left : source.LeavesAt offset text) :
    source.chars = source.before offset ++ text := by
  have narrow : ∀ c more, text = c :: more → 0 < c.utf8Size := fun c _ _ => c.utf8Size_pos
  obtain ⟨front, parts, same⟩ := left.before_eq narrow left.le_size
  rw [Nat.add_zero] at same
  rwa [same]

theorem positionByBytes_eq (source : Source) (offset : Nat) :
    source.positionByBytes offset = .ok (source.position offset) := by
  obtain ⟨floor, rest, left⟩ := source.exists_append_before offset
  have cutOut := left.cut_eq
  rw [Nat.zero_add, ← floor] at cutOut
  have characters : (ofText (String.ofList (source.before offset))).chars =
      source.before offset := String.toList_ofList
  rw [positionByBytes, cutOut]
  change (ofText (String.ofList (source.before offset))).endByBytes = _
  rw [endByBytes_eq, characters, position_eq]

/-! ### Places and offsets -/

/-- What is known of the places of the offsets of a source. -/
structure Numbered (source : Source) : Prop where
  /-- Going back from an offset comes to a boundary. -/
  floored : ∀ offset, source.isBoundary (source.floorBoundary (min offset source.size)) = true
  /-- Counted by bytes, the place of an offset is found without a fault. -/
  counted : ∀ offset, source.positionByBytes offset = .ok (source.position offset)
  /-- The place of an offset is the one behind the characters that lie wholly in front of it. -/
  read : ∀ offset, source.position offset =
    (charsWithin (min offset source.size) source.chars).foldl Position.next ⟨1, 1⟩
  inside : ∀ start c text i, source.LeavesAt start (c :: text) → i < c.utf8Size →
    source.position (start + i) = source.position start
  pastEnd : ∀ offset, source.size ≤ offset → source.position offset = source.position source.size
  ordered : ∀ offset later, offset ≤ later → source.position offset = source.position later ∨
    (source.position offset).Before (source.position later)
  distinct : ∀ offset other, source.isBoundary offset = true → source.isBoundary other = true →
    source.position offset = source.position other → offset = other

theorem position_add {start i : Nat} (left : source.LeavesAt start (c :: text))
    (inside : i < c.utf8Size) : source.position (start + i) = source.position start := by
  have within : ∀ d more, c :: text = d :: more → i < d.utf8Size := by
    rintro d more same
    cases same
    exact inside
  have bound : start + i ≤ source.size := by
    have := left.tail.le_size
    omega
  obtain ⟨front, parts, same⟩ := left.before_eq within bound
  have whole := left.before_append
  rw [parts, List.append_cancel_right_eq] at whole
  rw [position_eq, position_eq, same, whole]

theorem before_position {offset later : Nat} (left : source.LeavesAt offset text)
    (right : source.LeavesAt later back) (ordered : offset < later) :
    (source.position offset).Before (source.position later) := by
  obtain ⟨between, rfl, rfl⟩ := left.split right (Nat.le_of_lt ordered)
  have nonempty : between ≠ [] := by
    rintro rfl
    exact Nat.lt_irrefl _ ordered
  have parts := right.before_append
  rw [left.before_append, ← List.append_assoc, List.append_cancel_right_eq] at parts
  rw [position_eq, position_eq, ← parts, Position.behind, Position.behind, List.foldl_append]
  exact Position.before_foldl nonempty _

/-- **Places are those of a reader.** The place of any offset is found without a fault, by bytes and
by characters alike; it is where a reader is behind all that lies wholly in front of the offset. -/
theorem numbered_positions (source : Source) : source.Numbered where
  floored offset := by
    obtain ⟨floor, rest, left⟩ := source.exists_append_before offset
    have boundary := left.drop.isBoundary
    rwa [Nat.zero_add, ← floor] at boundary
  counted := source.positionByBytes_eq
  read := source.position_eq
  inside _ _ _ _ left within := position_add left within
  pastEnd offset behind := by
    rw [position_eq, position_eq, before, before, Nat.min_eq_right behind, Nat.min_self]
  ordered offset later forward := by
    rw [position_eq, position_eq]
    exact Position.behind_le_of_isPrefix (charsWithin_isPrefix (by omega) _)
  distinct offset other boundary boundary' same := by
    obtain ⟨text, left⟩ := isBoundary_iff.mp boundary
    obtain ⟨text', left'⟩ := isBoundary_iff.mp boundary'
    rcases Nat.lt_trichotomy offset other with forward | here | backward
    · exact absurd same (before_position left left' forward).ne
    · exact here
    · exact absurd same.symm (before_position left' left backward).ne

end Source

end TemplateScan
