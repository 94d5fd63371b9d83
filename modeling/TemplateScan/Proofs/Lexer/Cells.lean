import TemplateScan.Proofs.Lexer

/-! # Reading from any offset

An attempt may begin at any offset of a source, also inside a character. What a probe then passes
over is a row of cells: the bytes up to the next character, each seen as U+FFFD, and behind them the
characters of the source, each as wide as its UTF-8 form (`Lexer.reads_of_offset_le`). Advancing and
skipping pass over the same cells, and the host moves by the first of them.
-/

namespace TemplateScan

/-- What a probe sees, and the number of bytes that it moves over for it. -/
structure Cell where
  char : Char
  width : Nat
deriving DecidableEq, Repr

namespace Cell

/-- A character, read where it starts. -/
def whole (c : Char) : Cell :=
  ⟨c, c.utf8Size⟩

/-- A byte inside a character. -/
def stray : Cell :=
  ⟨replacementChar, 1⟩

/-- The number of bytes of a row of cells. -/
def total : List Cell → Nat
  | [] => 0
  | cell :: cells => cell.width + total cells

@[simp] theorem total_nil : total [] = 0 := rfl

@[simp] theorem total_cons (cell : Cell) (cells : List Cell) :
    total (cell :: cells) = cell.width + total cells := rfl

end Cell

/-- A way to move a probe over what is in front of it. -/
inductive Stride where
  | advance
  | skip
deriving DecidableEq, Repr

def Stride.call : Stride → ScriptCall
  | .advance => .advance
  | .skip => .skip

namespace Source

variable {source : Source} {offset : Nat} {text : List Char} {c : Char}

/-! ### Offsets inside a character -/

theorem LeavesAt.isBoundary_add {i : Nat} (left : source.LeavesAt offset (c :: text))
    (behind : 0 < i) (inside : i < c.utf8Size) : source.isBoundary (offset + i) = false := by
  have bound : offset + i < source.size := by
    have := left.tail.le_size
    omega
  rw [Source.isBoundary, if_pos bound, continuation_of_pos behind (left.byteAt_eq inside)]
  rfl

theorem byteAt_of_split (bound : offset < source.size)
    (split : source.isBoundary offset = false) : source.byteAt offset &&& 0xC0 = 0x80 := by
  rw [isBoundary, if_pos bound] at split
  simpa using split

theorem not_isUTF8FirstByte_of_split (bound : offset < source.size)
    (split : source.isBoundary offset = false) : ¬ (source.byteAt offset).IsUTF8FirstByte := by
  have starts : ∀ byte : UInt8, byte &&& 0xC0 = 0x80 → ¬ byte.IsUTF8FirstByte :=
    forall_byte_of_forall_lt (by decide +kernel)
  exact starts _ (byteAt_of_split bound split)

/-- No character is read inside a character. -/
theorem charAt?_of_split (bound : offset < source.size)
    (split : source.isBoundary offset = false) : source.charAt? offset = none := by
  cases read : source.charAt? offset with
  | none => rfl
  | some c =>
      have first := ByteArray.isUTF8FirstByte_of_isSome_utf8DecodeChar? (b := source.bytes)
        (i := offset) (by rw [charAt?] at read; rw [read]; rfl)
      have here : source.byteAt offset = source.bytes[offset] := dif_pos bound
      have other := not_isUTF8FirstByte_of_split bound split
      rw [here] at other
      exact absurd first other

/-- Bytes that start inside a character are no UTF-8. -/
theorem not_isValidUTF8_of_split {stop : Nat} (bound : offset < source.size)
    (split : source.isBoundary offset = false) (ordered : offset < stop) :
    ¬ (source.bytes.extract offset stop).IsValidUTF8 := by
  intro valid
  have size : 0 < (source.bytes.extract offset stop).size := by
    have : source.bytes.size = source.size := rfl
    rw [ByteArray.size_extract]
    omega
  have first := valid.isUTF8FirstByte_getElem_zero size
  rw [ByteArray.getElem_extract] at first
  have here : source.byteAt offset = source.bytes[offset + 0] := dif_pos bound
  have other := not_isUTF8FirstByte_of_split bound split
  rw [here] at other
  exact other first

theorem slice_of_not_isValidUTF8 {span : Span}
    (invalid : ¬ (source.bytes.extract span.start span.stop).IsValidUTF8) :
    source.slice span = "" := by
  rw [slice, String.fromUTF8?, dif_neg invalid]
  exact ite_self ""

theorem widthAt_of_split (bound : offset < source.size)
    (split : source.isBoundary offset = false) : Lexer.widthAt source offset = 1 := by
  have single : ∀ byte : UInt8, byte &&& 0xC0 = 0x80 → leadWidth byte = 1 :=
    forall_byte_of_forall_lt (by decide +kernel)
  rw [Lexer.widthAt, single _ (byteAt_of_split bound split)]
  omega

/-! ### Rows of cells -/

/-- A cell that stands at an offset of a source. -/
structure Shows (source : Source) (offset : Nat) (cell : Cell) : Prop where
  inside : offset < source.size
  width : Lexer.widthAt source offset = cell.width
  char : (source.charAt? offset).getD replacementChar = cell.char
  /-- The bytes of the cell alone are read as what is seen. -/
  spelled : (source.slice ⟨offset, offset + cell.width⟩).toList.head?.getD replacementChar =
    cell.char

theorem LeavesAt.shows (left : source.LeavesAt offset (c :: text)) :
    source.Shows offset (.whole c) where
  inside := left.lt_size
  width := left.widthAt_eq
  char := by
    rw [left.charAt?_eq]
    rfl
  spelled := by
    have whole : source.LeavesAt offset ([c] ++ text) := left
    have spelled := whole.slice_eq
    rw [byteLength_cons, byteLength_nil, Nat.add_zero] at spelled
    rw [Cell.whole, spelled, String.toList_ofList]
    rfl

theorem shows_stray (bound : offset < source.size) (split : source.isBoundary offset = false) :
    source.Shows offset .stray where
  inside := bound
  width := widthAt_of_split bound split
  char := by
    rw [charAt?_of_split bound split]
    rfl
  spelled := by
    rw [Cell.stray, slice_of_not_isValidUTF8
      (not_isValidUTF8_of_split bound split (Nat.lt_succ_self offset))]
    rfl

/-- Cells that stand one behind the other from an offset up to the end of a source. -/
inductive Row (source : Source) : Nat → List Cell → Prop
  | ended : Row source source.size []
  | next {offset : Nat} {cell : Cell} {cells : List Cell} (shows : source.Shows offset cell)
      (later : Row source (offset + cell.width) cells) : Row source offset (cell :: cells)

theorem LeavesAt.row (left : source.LeavesAt offset text) :
    source.Row offset (text.map Cell.whole) := by
  induction text generalizing offset with
  | nil =>
      have ends := left.add_byteLength
      rw [byteLength_nil, Nat.add_zero] at ends
      rw [ends]
      exact .ended
  | cons c text ih => exact .next left.shows (ih left.tail)

/-- What stands in a source from an offset on: `stray` bytes of the character that the offset is
inside of, and the characters behind them. -/
structure Parts (source : Source) (offset stray : Nat) (text : List Char) : Prop where
  few : stray ≤ 3
  whole : source.isBoundary offset = true → stray = 0
  split : ∀ i < stray, source.isBoundary (offset + i) = false
  leaves : source.LeavesAt (offset + stray) text

/-- The cells from an offset on. -/
def cells (stray : Nat) (text : List Char) : List Cell :=
  List.replicate stray .stray ++ text.map .whole

theorem row_cells {stray : Nat} (split : ∀ i < stray, source.isBoundary (offset + i) = false)
    (left : source.LeavesAt (offset + stray) text) : source.Row offset (cells stray text) := by
  induction stray generalizing offset with
  | zero => exact left.row
  | succ stray ih =>
      have bound := left.le_size
      have first := split 0 (Nat.succ_pos stray)
      have next : offset + (stray + 1) = offset + 1 + stray := by omega
      rw [next] at left
      refine .next (shows_stray (by omega) first) (ih ?_ left)
      intro i inside
      have behind := split (i + 1) (Nat.succ_lt_succ inside)
      rwa [Nat.add_comm i, ← Nat.add_assoc] at behind

theorem exists_parts (bound : offset ≤ source.size) :
    ∃ stray text, source.Parts offset stray text := by
  by_cases boundary : source.isBoundary offset = true
  · obtain ⟨text, left⟩ := isBoundary_iff.mp boundary
    exact ⟨0, text, Nat.zero_le _, fun _ => rfl, fun _ early => absurd early (Nat.not_lt_zero _),
      left⟩
  have short : offset < source.size := by
    apply Nat.lt_of_le_of_ne bound
    rintro rfl
    exact boundary source.leavesAt_size.isBoundary
  obtain ⟨start, c, text, i, left, inside, rfl⟩ := exists_leavesAt_of_lt short
  have behind : 0 < i := by
    apply Nat.pos_of_ne_zero
    rintro rfl
    exact boundary left.isBoundary
  have wide := c.utf8Size_le_four
  have next : start + i + (c.utf8Size - i) = start + c.utf8Size := by omega
  refine ⟨c.utf8Size - i, text, by omega, fun here => absurd here boundary, ?_, ?_⟩
  · intro j near
    rw [Nat.add_assoc]
    exact left.isBoundary_add (by omega) (by omega)
  · rw [next]
    exact left.tail

theorem Row.offset_add_total {row : List Cell} (stands : source.Row offset row) :
    offset + Cell.total row = source.size := by
  induction stands with
  | ended => exact Nat.add_zero _
  | next shows later ih =>
      rw [Cell.total_cons, ← Nat.add_assoc]
      exact ih

end Source

namespace Lexer

open ScriptCall (perform perform_cons)

variable {source : Source} {l : Lexer source} {cells : List Cell}

/-! ### Passing over cells -/

/-- A host that has begun an attempt and made some strides in it. -/
def strides (l : Lexer source) (strides : List Stride) : Lexer source :=
  perform l.beginAttempt (strides.map Stride.call)

/-- What an attempt reads: after any strides, the probe has passed over as many cells, and it sees
the next one or the end. The host moves over the first cell. -/
structure Reads (l : Lexer source) (cells : List Cell) : Prop where
  total : l.offset + Cell.total cells = source.size
  place : ∀ strides, (l.strides strides).probe =
    l.offset + Cell.total (cells.take strides.length)
  seen : ∀ strides, (l.strides strides).lookahead =
    (cells[strides.length]?.map Cell.char).getD endChar
  ended : ∀ strides, (l.strides strides).probeAtEnd = decide (cells.length ≤ strides.length)
  /-- What is seen is read off the bytes of the cell alone. -/
  spelled : ∀ strides, strides.length < cells.length →
    (l.strides strides).lookahead = (source.slice ⟨(l.strides strides).probe,
      (l.strides strides).probe + widthAt source (l.strides strides).probe⟩).toList.head?.getD
        replacementChar
  bumped : l.bumpChar = .ok { l with offset := l.offset + Cell.total (cells.take 1) }

theorem probe_of_shows {cell : Cell} (shows : source.Shows l.probe cell) (stride : Stride) :
    (stride.call.run l).2.probe = l.probe + cell.width := by
  have moved : l.consume.probe = l.probe + cell.width := by
    rw [consume, if_pos shows.inside, shows.width]
  cases stride with
  | advance => exact moved
  | skip => exact (probe_skip l).trans moved

theorem probe_of_ended (ended : l.probe = source.size) (stride : Stride) :
    (stride.call.run l).2.probe = source.size := by
  have unmoved : l.consume = l := by
    rw [consume, if_neg (by omega)]
  cases stride with
  | advance =>
      change l.consume.probe = source.size
      rw [unmoved, ended]
  | skip =>
      change l.skip.probe = source.size
      rw [probe_skip, unmoved, ended]

/-- Strides pass over cells one by one, and stay at the end once they have come there. -/
theorem row_perform (row : source.Row l.probe cells) (strides : List Stride) :
    source.Row (perform l (strides.map Stride.call)).probe (cells.drop strides.length) ∧
      (perform l (strides.map Stride.call)).probe =
        l.probe + Cell.total (cells.take strides.length) := by
  induction strides generalizing l cells with
  | nil => exact ⟨row, rfl⟩
  | cons stride strides ih =>
      rw [List.map_cons, perform_cons, List.length_cons]
      generalize place : l.probe = offset at row
      cases row with
      | ended =>
          have still := probe_of_ended place stride
          have last := @ih (stride.call.run l).2 [] (by rw [still]; exact .ended)
          rw [still] at last
          rwa [List.drop_nil, List.take_nil] at last ⊢
      | next shows later =>
          rw [← place] at shows later
          have moved := probe_of_shows shows stride
          rw [← moved] at later
          obtain ⟨rest, probe⟩ := ih later
          refine ⟨rest, ?_⟩
          rw [probe, moved, place, List.take_succ_cons, Cell.total_cons, Nat.add_assoc]

theorem probeAtEnd_of_row (row : source.Row l.probe cells) :
    l.probeAtEnd = decide (cells = []) := by
  rw [probeAtEnd]
  generalize l.probe = offset at row
  cases row with
  | ended => simp
  | next shows => simp [shows.inside]

theorem lookahead_of_row (row : source.Row l.probe cells) :
    l.lookahead = (cells.head?.map Cell.char).getD endChar := by
  have ended := probeAtEnd_of_row row
  rw [lookahead, ended]
  generalize l.probe = offset at row
  cases row with
  | ended => rfl
  | next shows => exact shows.char

theorem spelled_of_row (row : source.Row l.probe cells) (nonempty : cells ≠ []) :
    l.lookahead = (source.slice ⟨l.probe, l.probe + widthAt source l.probe⟩).toList.head?.getD
      replacementChar := by
  rw [lookahead_of_row row]
  generalize l.probe = offset at row
  cases row with
  | ended => exact absurd rfl nonempty
  | next shows =>
      rw [shows.width, shows.spelled]
      rfl

theorem bumpChar_of_row (row : source.Row l.offset cells) :
    l.bumpChar = .ok { l with offset := l.offset + Cell.total (cells.take 1) } := by
  have whole := row.offset_add_total
  rw [bumpChar, isAtEnd]
  generalize place : l.offset = offset at row whole ⊢
  cases row with
  | ended =>
      rw [if_pos (by simp)]
      cases l
      cases place
      rfl
  | next shows =>
      have inside := shows.inside
      rw [Cell.total_cons] at whole
      rw [if_neg (by simpa using inside), shows.width, setOffset_eq (by omega)]
      simp

theorem reads_of_row (row : source.Row l.offset cells) : l.Reads cells := by
  have passed := row_perform (l := l.beginAttempt) row
  refine ⟨row.offset_add_total, fun strides => (passed strides).2, ?_, ?_, ?_,
    bumpChar_of_row row⟩
  · intro strides
    rw [Lexer.strides, lookahead_of_row (passed strides).1, List.head?_drop]
  · intro strides
    rw [Lexer.strides, probeAtEnd_of_row (passed strides).1, decide_eq_decide,
      List.drop_eq_nil_iff]
  · intro strides before
    refine spelled_of_row (passed strides).1 ?_
    rw [ne_eq, List.drop_eq_nil_iff]
    omega

end Lexer

end TemplateScan
