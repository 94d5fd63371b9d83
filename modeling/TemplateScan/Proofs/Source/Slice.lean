import TemplateScan.Proofs.Lexer.Cells
import TemplateScan.Proofs.Lexer.Reach

/-! # Text cut out of a source

The bytes of a span are read as UTF-8 without a look at where characters start. None is needed: bytes
that start inside a character are no UTF-8, and what UTF-8 there is from a boundary on is a front of
the text that is left there, so it ends at a boundary too (`Source.exists_leavesAt_of_extract`). A span
gives the text between its ends exactly where both are boundaries. The padding behind a source is out
of reach: the bytes of a span are the same with it and without it (`Source.sliceTrapping_eq`).
-/

namespace TemplateScan

/-- A range of some bytes, which must have its ends in order and within the bytes. -/
def Trap.range (bytes : ByteArray) (span : Span) : Except Trap ByteArray :=
  if span.start ≤ span.stop ∧ span.stop ≤ bytes.size then .ok (bytes.extract span.start span.stop)
  else .error .outOfBuffer

/-! ### Fronts of a text by their bytes -/

/-- Bytes in front of the bytes of a text that are themselves those of characters are those of the
first characters of the text. -/
theorem isPrefix_of_utf8Encode {front text : List Char} {behind : ByteArray}
    (encoded : text.utf8Encode = front.utf8Encode ++ behind) : front <+: text := by
  induction front generalizing text with
  | nil => exact List.nil_prefix
  | cons d front ih =>
      have first : text.utf8Encode.utf8DecodeChar? 0 = some d := by
        rw [encoded]
        exact ByteArray.utf8DecodeChar?_append_eq_some List.utf8DecodeChar?_utf8Encode_cons behind
      cases text with
      | nil =>
          have bound := ByteArray.lt_size_of_isSome_utf8DecodeChar? (by rw [first]; rfl)
          exact absurd bound (Nat.lt_irrefl 0)
      | cons c text =>
          rw [List.utf8DecodeChar?_utf8Encode_cons, Option.some.injEq] at first
          subst first
          rw [List.utf8Encode_cons, @List.utf8Encode_cons c front, ByteArray.append_assoc,
            ByteArray.append_right_inj] at encoded
          exact List.cons_prefix_cons.mpr ⟨rfl, ih encoded⟩

theorem utf8ByteSize_ofList (text : List Char) :
    (String.ofList text).utf8ByteSize = byteLength text :=
  size_utf8Encode text

namespace Source

variable {source : Source} {span : Span} {offset stop : Nat} {text : List Char}

/-- From a boundary on, bytes that are UTF-8 end at a boundary. -/
theorem exists_leavesAt_of_extract (left : source.LeavesAt offset text) (ordered : offset ≤ stop)
    (within : stop ≤ source.size) (valid : (source.bytes.extract offset stop).IsValidUTF8) :
    ∃ rest, source.LeavesAt stop rest := by
  obtain ⟨front, spelled⟩ := valid
  obtain ⟨before, parts, rfl⟩ := left.bytes_eq
  have behind : source.bytes.extract before.size source.size = text.utf8Encode := by
    rw [parts, ByteArray.extract_append_eq_right rfl]
    rw [size, parts, ByteArray.size_append]
  have encoded : text.utf8Encode =
      front.utf8Encode ++ source.bytes.extract stop source.size := by
    rw [← behind, ← spelled, ByteArray.extract_append_extract, Nat.min_eq_left ordered,
      Nat.max_eq_right within]
  obtain ⟨rest, rfl⟩ := isPrefix_of_utf8Encode encoded
  have width : before.size + byteLength front = stop := by
    have sizes := congrArg ByteArray.size spelled
    have : source.bytes.size = source.size := rfl
    rw [ByteArray.size_extract, size_utf8Encode] at sizes
    omega
  exact ⟨rest, width ▸ left.drop⟩

theorem slice_of_not_isBoundary_start (split : source.isBoundary span.start = false) :
    source.slice span = "" := by
  by_cases inside : span.start < span.stop ∧ span.stop ≤ source.size
  · exact slice_of_not_isValidUTF8
      (not_isValidUTF8_of_split (Nat.lt_of_lt_of_le inside.1 inside.2) split inside.1)
  · rw [slice]
    split
    · next here =>
        have empty : span.start = span.stop := by omega
        rw [← empty, ByteArray.extract_same]
        rfl
    · rfl

theorem slice_of_not_isBoundary_stop (boundary : source.isBoundary span.start = true)
    (split : source.isBoundary span.stop = false) : source.slice span = "" := by
  obtain ⟨text, left⟩ := isBoundary_iff.mp boundary
  by_cases here : span.start ≤ span.stop ∧ span.stop ≤ source.size
  · apply slice_of_not_isValidUTF8
    intro valid
    obtain ⟨rest, behind⟩ := exists_leavesAt_of_extract left here.1 here.2 valid
    rw [behind.isBoundary] at split
    cases split
  · rw [slice, if_neg here]

/-- What a span between two boundaries cuts out stands between its ends. -/
theorem exists_append_slice (ordered : span.start ≤ span.stop)
    (first : source.isBoundary span.start = true) (last : source.isBoundary span.stop = true) :
    ∃ before after, source.text = before ++ source.slice span ++ after ∧
      before.utf8ByteSize = span.start ∧
      (before ++ source.slice span).utf8ByteSize = span.stop := by
  obtain ⟨text, left⟩ := isBoundary_iff.mp first
  obtain ⟨rest, right⟩ := isBoundary_iff.mp last
  obtain ⟨middle, rfl, stop⟩ := left.split right ordered
  have spelled := left.slice_eq
  rw [← stop] at spelled
  obtain ⟨before, parts, width⟩ := left
  refine ⟨String.ofList before, String.ofList rest, ?_, ?_, ?_⟩
  · rw [spelled, ← String.ofList_append, ← String.ofList_append, List.append_assoc, ← parts, chars,
      String.ofList_toList]
  · rw [utf8ByteSize_ofList, width]
  · rw [spelled, ← String.ofList_append, utf8ByteSize_ofList, byteLength_append, width, stop]

/-! ### The padding behind a source -/

theorem extract_padded (source : Source) (start : Nat) (within : stop ≤ source.size) :
    source.padded.extract start stop = source.bytes.extract start stop := by
  have ends : stop - source.bytes.size = 0 := Nat.sub_eq_zero_of_le within
  have nothing : ∀ zeros : ByteArray,
      zeros.extract (start - source.bytes.size) (stop - source.bytes.size) = ByteArray.empty := by
    intro zeros
    rw [ends, ByteArray.extract_eq_empty_iff, Nat.zero_min]
    exact Nat.zero_le _
  rw [padded, ByteArray.extract_append, nothing, ByteArray.append_empty]

/-- `slice` by a range of the padded bytes. -/
def sliceTrapping (source : Source) (span : Span) : Except Trap String :=
  if span.start ≤ span.stop ∧ span.stop ≤ source.size then do
    let bytes ← Trap.range source.padded span
    return (String.fromUTF8? bytes).getD ""
  else return ""

theorem sliceTrapping_eq (source : Source) (span : Span) :
    source.sliceTrapping span = .ok (source.slice span) := by
  rw [sliceTrapping, slice]
  split
  · next here =>
      have room : span.stop ≤ source.padded.size := by
        rw [size_padded]
        exact Nat.le_trans here.2 (Nat.le_of_lt source.size_lt_paddedSize)
      rw [Trap.range, if_pos ⟨here.1, room⟩, source.extract_padded span.start here.2]
      rfl
  · rfl

/-! ### All spans -/

/-- What is cut out of a source by any span, and by a host at any offset. -/
structure CutsText (source : Source) : Prop where
  /-- Between two boundaries all of the text there is cut out, and no more. -/
  between : ∀ span, span.start ≤ span.stop → span.stop ≤ source.size →
    source.isBoundary span.start = true → source.isBoundary span.stop = true →
    ∃ before after, source.text = before ++ source.slice span ++ after ∧
      before.utf8ByteSize = span.start ∧
      (before ++ source.slice span).utf8ByteSize = span.stop
  elsewhere : ∀ span, ¬ (span.start ≤ span.stop ∧ span.stop ≤ source.size ∧
    source.isBoundary span.start = true ∧ source.isBoundary span.stop = true) →
    source.slice span = ""
  /-- Cut out of the padded bytes, the text is the same, and no index is out of range. -/
  untrapped : ∀ span, source.sliceTrapping span = .ok (source.slice span)
  rest : ∀ l : Lexer source, source.isBoundary l.offset = true →
    ∃ before, source.text = before ++ l.rest ∧ before.utf8ByteSize = l.offset
  restElsewhere : ∀ l : Lexer source, source.isBoundary l.offset = false → l.rest = ""

end Source

end TemplateScan
