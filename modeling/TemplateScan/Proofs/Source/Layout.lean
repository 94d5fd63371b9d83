import TemplateScan.Proofs.Source.Slice

/-! # The layout of a source

A source is laid out in front of zeros that fill up its last line, and what is peculiar about its
text is noticed on the way. With machine words, the size of the whole comes from clearing the low
bits of a sum, and the zero bytes from a search that begins anew behind each of them
(`Source.layOutTrapping`). Where the size of a source is an offset, none of it traps, and it comes
to the padded bytes and the issues of the source. The padding is the shortest one in whole lines,
and the issues tell exactly where U+FEFF and U+0000 stand (`Source.laidOut_of_size_le`).
-/

namespace TemplateScan

/-! ### Indices and searches -/

/-- Indices are words of 64 bits. -/
def Trap.maxIndex : Nat :=
  UInt64.size - 1

def Trap.indexSum (left right : Nat) : Except Trap { sum : Nat // sum = left + right } :=
  if left + right ≤ maxIndex then .ok ⟨left + right, rfl⟩ else .error .overflow

/-- `front` in place of the first bytes of a buffer. -/
def Trap.overwrite (buffer front : ByteArray) : Except Trap ByteArray :=
  if front.size ≤ buffer.size then .ok (front ++ buffer.extract front.size buffer.size)
  else .error .outOfBuffer

theorem Trap.indexSum_eq {left right : Nat} (fits : left + right ≤ maxIndex) :
    indexSum left right = .ok ⟨left + right, rfl⟩ :=
  if_pos fits

/-- A search for the first place of a byte. -/
structure ByteSearch where
  find? : UInt8 → ByteArray → Option Nat
  found : ∀ {byte bytes index}, find? byte bytes = some index →
    bytes.data[index]? = some byte ∧ ∀ earlier < index, bytes.data[earlier]? ≠ some byte
  absent : ∀ {byte bytes}, find? byte bytes = none → ∀ index : Nat, bytes.data[index]? ≠ some byte

namespace ByteSearch

/-- The search that looks at one byte after the other. -/
def linear : ByteSearch where
  find? byte bytes := bytes.data.findIdx? (· == byte)
  found := by
    intro byte bytes index here
    obtain ⟨bound, same, others⟩ := Array.findIdx?_eq_some_iff_getElem.mp here
    refine ⟨Array.getElem?_eq_some_iff.mpr ⟨bound, eq_of_beq same⟩, ?_⟩
    intro earlier before read
    obtain ⟨_, read⟩ := Array.getElem?_eq_some_iff.mp read
    exact others earlier before (beq_iff_eq.mpr read)
  absent := by
    intro byte bytes nowhere index read
    have other := Array.findIdx?_eq_none_iff.mp nowhere byte (Array.mem_of_getElem? read)
    rw [beq_self_eq_true] at other
    cases other

theorem lt_size (search : ByteSearch) {byte : UInt8} {bytes : ByteArray} {index : Nat}
    (here : search.find? byte bytes = some index) : index < bytes.size :=
  (Array.getElem?_eq_some_iff.mp (search.found here).1).1

end ByteSearch

/-! ### Laying out with machine words -/

/-- The issue of U+0000 at an offset. -/
def EncodingIssue.null (offset : Nat) : EncodingIssue :=
  ⟨.interiorNull, ⟨offset, offset + 1⟩⟩

/-- Bytes laid out for reading, the number of those in front of the sentinel, and their issues. -/
structure Buffer where
  bytes : ByteArray
  size : Nat
  issues : List EncodingIssue

namespace Buffer

/-- A number of bytes with the sentinel, rounded up to whole lines. -/
def roundTrapping (size : Nat) : Except Trap Nat := do
  let behind ← Trap.indexSum size 1
  let above ← Trap.indexSum behind Source.lineSize
  let last ← Trap.difference above 1
  return (UInt64.ofNat last &&& ~~~UInt64.ofNat (Source.lineSize - 1)).toNat

/-- Zeros for whole lines, with some bytes copied over the first of them. -/
def padTrapping (bytes : ByteArray) : Except Trap ByteArray := do
  let size ← roundTrapping bytes.size
  Trap.overwrite ⟨Array.replicate size 0⟩ bytes

/-- Issues with that of a zero byte behind them, where its index is an offset. -/
def noteTrapping (issues : List EncodingIssue) (index : Nat) : Except Trap (List EncodingIssue) :=
  if index ≤ maxOffset then do
    let stop ← Trap.sum index 1
    return issues ++ [⟨.interiorNull, ⟨index, stop⟩⟩]
  else return issues

/-- Issues with those of the zero bytes at or behind an offset. Each search starts behind the zero
byte that was found last. -/
def nullsTrapping (search : ByteSearch) (bytes : ByteArray) (offset : Nat)
    (issues : List EncodingIssue) : Except Trap (List EncodingIssue) :=
  if _within : offset ≤ bytes.size then
    match _found : search.find? 0 (bytes.extract offset bytes.size) with
    | none => return issues
    | some ahead => do
        let ⟨index, _here⟩ ← Trap.indexSum offset ahead
        let more ← noteTrapping issues index
        let ⟨next, _behind⟩ ← Trap.indexSum index 1
        nullsTrapping search bytes next more
  else .error .outOfBuffer
termination_by bytes.size - offset
decreasing_by
  have inside := search.lt_size _found
  rw [ByteArray.size_extract] at inside
  omega

/-- The bytes of U+FEFF. -/
def mark : Array UInt8 :=
  #[0xEF, 0xBB, 0xBF]

/-- The issues of some bytes: a mark at their start, then each zero byte. -/
def issuesTrapping (search : ByteSearch) (bytes : ByteArray) : Except Trap (List EncodingIssue) :=
  nullsTrapping search bytes 0
    (if (bytes.extract 0 mark.size).data = mark then [⟨.byteOrderMark, ⟨0, 3⟩⟩] else [])

end Buffer

/-- `padded` and `issues` on machine words. Bytes that no offset reaches are left out. -/
def Source.layOutTrapping (search : ByteSearch) (source : Source) : Except Trap Buffer := do
  let size := min source.size maxOffset
  let bytes ← Trap.range source.bytes ⟨0, size⟩
  let padded ← Buffer.padTrapping bytes
  let issues ← Buffer.issuesTrapping search bytes
  return ⟨padded, size, issues⟩

/-! ### Whole lines -/

namespace Buffer

/-- Clearing the low bits of a word rounds it down to whole lines. -/
theorem toNat_and_not_mask (word : UInt64) :
    (word &&& ~~~UInt64.ofNat (Source.lineSize - 1)).toNat =
      word.toNat / Source.lineSize * Source.lineSize := by
  have mask : (~~~UInt64.ofNat (Source.lineSize - 1)).toNat = 2 ^ 64 - (2 ^ 6 - 1 + 1) := rfl
  have line : Source.lineSize = 2 ^ 6 := rfl
  -- Bit by bit: the six low ones are clear on both sides, and none stands beyond the word.
  apply Nat.eq_of_testBit_eq
  intro i
  rw [UInt64.toNat_and, Nat.testBit_and, mask, Nat.testBit_two_pow_sub_succ (by decide),
    Nat.testBit_two_pow_sub_one, line, Nat.testBit_mul_two_pow, Nat.testBit_div_two_pow]
  by_cases low : i < 6
  · simp [low, Nat.not_le_of_lt low]
  · have high : 6 ≤ i := Nat.le_of_not_lt low
    rw [Nat.sub_add_cancel high]
    by_cases inside : i < 64
    · simp [low, high, inside]
    · have above : word.toNat.testBit i = false :=
        Nat.testBit_lt_two_pow (Nat.lt_of_lt_of_le word.toNat_lt
          (Nat.pow_le_pow_right (by decide) (Nat.le_of_not_lt inside)))
      simp [above]

theorem roundTrapping_eq {size : Nat} (fits : size ≤ maxOffset) :
    roundTrapping size =
      .ok ((size + 1 + (Source.lineSize - 1)) / Source.lineSize * Source.lineSize) := by
  have room : size + 1 + Source.lineSize ≤ Trap.maxIndex :=
    Nat.le_trans (Nat.add_le_add_right (Nat.succ_le_succ fits) _) (by decide)
  have word : size + 1 + Source.lineSize - 1 < UInt64.size :=
    Nat.lt_of_le_of_lt (Nat.sub_le _ _) (Nat.lt_of_le_of_lt room (by decide))
  have positive : 1 ≤ size + 1 + Source.lineSize := by omega
  have cleared := toNat_and_not_mask (UInt64.ofNat (size + 1 + Source.lineSize - 1))
  rw [UInt64.toNat_ofNat_of_lt' word] at cleared
  rw [roundTrapping, Trap.indexSum_eq (Nat.le_trans (Nat.le_add_right _ _) room)]
  change (Trap.indexSum _ _).bind _ = _
  rw [Trap.indexSum_eq room, Except.bind, Trap.difference, if_pos positive]
  exact congrArg Except.ok cleared

end Buffer

namespace Source

variable {source : Source} {offset : Nat}

theorem dvd_paddedSize (source : Source) : 64 ∣ source.paddedSize :=
  Nat.dvd_mul_left lineSize _

theorem paddedSize_le {size : Nat} (whole : 64 ∣ size) (larger : source.size < size) :
    source.paddedSize ≤ size := by
  unfold paddedSize lineSize
  omega

/-! ### Bytes and padding -/

theorem data_extract_iff {stop i : Nat} {byte : UInt8} :
    (source.bytes.extract offset stop).data[i]? = some byte ↔
      offset + i < stop ∧ offset + i < source.size ∧ source.byteAt (offset + i) = byte := by
  have sizes : source.bytes.data.size = source.size := rfl
  rw [ByteArray.data_extract, Array.getElem?_extract, sizes]
  by_cases inside : offset + i < stop ∧ offset + i < source.size
  · have bound : offset + i < source.bytes.size := inside.2
    rw [if_pos (by omega), byteAt, dif_pos bound, Array.getElem?_eq_getElem bound,
      ByteArray.getElem_eq_getElem_data, Option.some.injEq, ← and_assoc]
    exact (and_iff_right inside).symm
  · rw [if_neg (by omega)]
    constructor
    · intro impossible
      cases impossible
    · rintro ⟨first, second, _⟩
      exact absurd ⟨first, second⟩ inside

theorem data_padded_of_size_le {index : Nat} (behind : source.size ≤ index)
    (within : index < source.padded.size) : source.padded.data[index]? = some 0 := by
  have sizes : source.bytes.data.size = source.size := rfl
  rw [size_padded] at within
  rw [padded, ByteArray.data_append, Array.getElem?_append_right behind, sizes,
    Array.getElem?_replicate, if_pos (Nat.sub_lt_sub_right behind within)]

theorem padTrapping_eq (fits : source.size ≤ maxOffset) :
    Buffer.padTrapping source.bytes = .ok source.padded := by
  have rounded : Buffer.roundTrapping source.bytes.size = .ok source.paddedSize :=
    Buffer.roundTrapping_eq fits
  have room : source.bytes.size ≤ source.paddedSize := Nat.le_of_lt source.size_lt_paddedSize
  have zeros : (⟨Array.replicate source.paddedSize 0⟩ : ByteArray).size = source.paddedSize :=
    Array.size_replicate
  have rest : (⟨Array.replicate source.paddedSize 0⟩ : ByteArray).extract source.bytes.size
      source.paddedSize = ⟨Array.replicate (source.paddedSize - source.size) 0⟩ := by
    apply ByteArray.ext
    rw [ByteArray.data_extract, Array.extract_replicate, Nat.min_self]
    rfl
  rw [Buffer.padTrapping, rounded]
  change Trap.overwrite _ _ = _
  rw [Trap.overwrite, zeros, if_pos room, rest, padded]

/-! ### Zero bytes -/

/-- A zero byte is U+0000, and part of no other character. -/
theorem byteAt_eq_zero_iff (inside : offset < source.size) :
    source.byteAt offset = 0 ↔ ∃ rest, source.LeavesAt offset ('\x00' :: rest) := by
  constructor
  · intro zero
    obtain ⟨start, c, rest, i, left, within, rfl⟩ := exists_leavesAt_of_lt inside
    obtain rfl : c = '\x00' :=
      (byte_eq_ascii_iff (d := '\x00') rfl (left.byteAt_eq within)).mp zero
    obtain rfl : i = 0 := Nat.lt_one_iff.mp within
    exact ⟨rest, left⟩
  · rintro ⟨rest, left⟩
    exact (byte_eq_ascii_iff (d := '\x00') rfl left.lead_eq).mpr rfl

theorem leavesAt_null_iff : (∃ rest, source.LeavesAt offset ('\x00' :: rest)) ↔
    ∃ before after, source.text = before ++ "\x00" ++ after ∧ before.utf8ByteSize = offset := by
  constructor
  · rintro ⟨rest, before, parts, width⟩
    refine ⟨String.ofList before, String.ofList rest, ?_, by rw [utf8ByteSize_ofList, width]⟩
    rw [← String.toList_inj]
    simpa [chars] using parts
  · rintro ⟨before, after, parts, width⟩
    refine ⟨after.toList, before.toList, ?_, ?_⟩
    · rw [chars, parts]
      simp
    · rw [← utf8ByteSize_ofList, String.ofList_toList, width]

/-- The zero bytes are noticed in the order in which they stand. -/
theorem nullsFrom_eq_map (source : Source) (offset : Nat) :
    source.nullsFrom offset =
      ((List.range' offset (source.size - offset)).filter (source.byteAt · = 0)).map .null := by
  fun_induction nullsFrom source offset with
  | case1 offset inside zero ih =>
      have more : source.size - offset = source.size - (offset + 1) + 1 := by omega
      rw [more, List.range'_succ, List.filter_cons_of_pos (by simpa using zero), List.map_cons, ih]
      rfl
  | case2 offset inside other ih =>
      have more : source.size - offset = source.size - (offset + 1) + 1 := by omega
      rw [more, List.range'_succ, List.filter_cons_of_neg (by simpa using other), ih]
  | case3 offset ended =>
      rw [Nat.sub_eq_zero_of_le (Nat.le_of_not_lt ended)]
      rfl

theorem exists_nulls (source : Source) :
    ∃ nulls : List Nat, source.nullsFrom 0 = nulls.map .null ∧ nulls.Pairwise (· < ·) ∧
      ∀ offset, offset ∈ nulls ↔ ∃ before after,
        source.text = before ++ "\x00" ++ after ∧ before.utf8ByteSize = offset := by
  refine ⟨_, source.nullsFrom_eq_map 0, (List.pairwise_lt_range' 1).filter _, ?_⟩
  intro offset
  rw [← leavesAt_null_iff, List.mem_filter, List.mem_range'_1, decide_eq_true_eq]
  constructor
  · rintro ⟨⟨_, inside⟩, zero⟩
    exact (byteAt_eq_zero_iff (by omega)).mp zero
  · rintro ⟨rest, left⟩
    have inside := left.lt_size
    exact ⟨⟨Nat.zero_le _, by omega⟩, (byteAt_eq_zero_iff inside).mpr ⟨rest, left⟩⟩

theorem nullsFrom_add {width : Nat} (bound : offset + width ≤ source.size)
    (other : ∀ i < width, source.byteAt (offset + i) ≠ 0) :
    source.nullsFrom offset = source.nullsFrom (offset + width) := by
  induction width generalizing offset with
  | zero => rfl
  | succ width ih =>
      have next : offset + (width + 1) = offset + 1 + width := by omega
      have first : source.byteAt offset ≠ 0 := other 0 (Nat.succ_pos width)
      rw [nullsFrom, if_pos (by omega), if_neg first, next]
      apply ih (by omega)
      intro i inside
      have behind := other (i + 1) (Nat.succ_lt_succ inside)
      rwa [Nat.add_comm i, ← Nat.add_assoc] at behind

theorem nullsFrom_zero (inside : offset < source.size) (zero : source.byteAt offset = 0) :
    source.nullsFrom offset = .null offset :: source.nullsFrom (offset + 1) := by
  rw [nullsFrom, if_pos inside, if_pos zero]
  rfl

/-- Bytes that a search passes over add nothing. -/
theorem nullsFrom_passed {width : Nat} (bound : offset + width ≤ source.size)
    (others : ∀ i < width,
      (source.bytes.extract offset source.bytes.size).data[i]? ≠ some 0) :
    source.nullsFrom offset = source.nullsFrom (offset + width) := by
  apply nullsFrom_add bound
  intro i before zero
  have inside : offset + i < source.size := by omega
  exact others i before (data_extract_iff.mpr ⟨inside, inside, zero⟩)

theorem noteTrapping_eq (issues : List EncodingIssue) (fits : offset + 1 ≤ maxOffset) :
    Buffer.noteTrapping issues offset = .ok (issues ++ [.null offset]) := by
  rw [Buffer.noteTrapping, if_pos (Nat.le_of_succ_le fits), Trap.sum, if_pos fits]
  rfl

/-- A search that begins anew behind each zero byte finds all of them. -/
theorem nullsTrapping_eq (fits : source.size ≤ maxOffset) (search : ByteSearch)
    (bound : offset ≤ source.size) (issues : List EncodingIssue) :
    Buffer.nullsTrapping search source.bytes offset issues =
      .ok (issues ++ source.nullsFrom offset) := by
  fun_induction Buffer.nullsTrapping search source.bytes offset issues with
  | case1 offset issues _ nowhere =>
      have ends : offset + (source.size - offset) = source.size := Nat.add_sub_of_le bound
      have passed := nullsFrom_passed (Nat.le_of_eq ends) fun i _ => search.absent nowhere i
      rw [passed, ends, nullsFrom, if_neg (Nat.lt_irrefl _), List.append_nil]
      rfl
  | case2 offset issues _ ahead here ih =>
      obtain ⟨read, others⟩ := search.found here
      obtain ⟨_, inside, zero⟩ := data_extract_iff.mp read
      -- Nothing is missed in front of the zero byte, and the next round begins behind it.
      have passed := nullsFrom_passed (Nat.le_of_lt inside) others
      have place : offset + ahead + 1 ≤ maxOffset := Nat.le_trans inside fits
      have room : offset + ahead + 1 ≤ Trap.maxIndex := Nat.le_trans place (by decide)
      rw [Trap.indexSum_eq (Nat.le_of_succ_le room)]
      change (Buffer.noteTrapping issues (offset + ahead)).bind _ = _
      rw [noteTrapping_eq issues place]
      change (Trap.indexSum (offset + ahead) 1).bind _ = _
      rw [Trap.indexSum_eq room]
      change Buffer.nullsTrapping _ _ _ _ = _
      rw [ih _ rfl _ _ rfl inside, passed, nullsFrom_zero inside zero, List.append_assoc]
      rfl
  | case3 offset issues outside => exact absurd bound outside

/-! ### The mark at the start -/

theorem hasByteOrderMark_iff_extract :
    source.hasByteOrderMark = true ↔ (source.bytes.extract 0 3).data = Buffer.mark := by
  constructor
  · intro marked
    have long := three_le_size marked
    have sizes : (source.bytes.extract 0 3).data.size = 3 := by
      rw [ByteArray.data_extract, Array.size_extract]
      exact Nat.min_eq_left long
    simp only [hasByteOrderMark, Bool.and_eq_true, beq_iff_eq] at marked
    obtain ⟨⟨first, second⟩, third⟩ := marked
    apply Array.ext_getElem?
    intro i
    rcases i with _ | _ | _ | i
    · exact data_extract_iff.mpr ⟨by omega, by omega, first⟩
    · exact data_extract_iff.mpr ⟨by omega, by omega, second⟩
    · exact data_extract_iff.mpr ⟨by omega, by omega, third⟩
    · rw [Array.getElem?_eq_none (by omega), Array.getElem?_eq_none (Nat.le_add_left 3 i)]
  · intro marked
    have read : ∀ (i : Nat) (byte : UInt8), (source.bytes.extract 0 3).data[i]? = some byte →
        source.byteAt (0 + i) = byte := fun _ _ here => (data_extract_iff.mp here).2.2
    rw [marked] at read
    rw [hasByteOrderMark, read 0 0xEF rfl, read 1 0xBB rfl, read 2 0xBF rfl]
    rfl

/-- The mark is U+FEFF at the start of the text. -/
theorem hasByteOrderMark_iff :
    source.hasByteOrderMark = true ↔ source.chars.head? = some '\uFEFF' := by
  constructor
  · intro marked
    have long : 3 ≤ source.bytes.size := three_le_size marked
    have spelled : source.bytes.extract 0 3 = ['\uFEFF'].utf8Encode :=
      ByteArray.ext (hasByteOrderMark_iff_extract.mp marked)
    have encoded : source.chars.utf8Encode =
        ['\uFEFF'].utf8Encode ++ source.bytes.extract 3 source.bytes.size := by
      rw [← spelled, ByteArray.extract_append_extract, Nat.max_eq_right long,
        utf8Encode_chars]
      exact ByteArray.extract_zero_size.symm
    obtain ⟨rest, parts⟩ := isPrefix_of_utf8Encode encoded
    rw [← parts]
    rfl
  · intro first
    obtain ⟨rest, parts⟩ := List.head?_eq_some_iff.mp first
    rw [hasByteOrderMark_iff_extract, ← utf8Encode_chars, parts, List.utf8Encode_cons]
    exact congrArg ByteArray.data (ByteArray.extract_append_eq_left rfl)

theorem issuesTrapping_eq (fits : source.size ≤ maxOffset) (search : ByteSearch) :
    Buffer.issuesTrapping search source.bytes = .ok source.issues := by
  rw [Buffer.issuesTrapping, nullsTrapping_eq fits search (Nat.zero_le _), issues]
  simp only [hasByteOrderMark_iff_extract]
  rfl

theorem layOutTrapping_eq (fits : source.size ≤ maxOffset) (search : ByteSearch) :
    source.layOutTrapping search = .ok ⟨source.padded, source.size, source.issues⟩ := by
  have whole : Trap.range source.bytes ⟨0, min source.size maxOffset⟩ = .ok source.bytes := by
    rw [Nat.min_eq_left fits, Trap.range, if_pos ⟨Nat.zero_le _, Nat.le_refl source.size⟩]
    exact congrArg Except.ok ByteArray.extract_zero_size
  rw [layOutTrapping, whole]
  change (Buffer.padTrapping source.bytes).bind _ = _
  rw [padTrapping_eq fits]
  change (Buffer.issuesTrapping search source.bytes).bind _ = _
  rw [issuesTrapping_eq fits search, Nat.min_eq_left fits]
  rfl

/-! ### What is laid out -/

/-- What a source is laid out as, and what is noticed about it. -/
structure LaidOut (source : Source) : Prop where
  /-- With machine words, whatever way bytes are searched in, nothing traps. -/
  untrapped : ∀ search,
    source.layOutTrapping search = .ok ⟨source.padded, source.size, source.issues⟩
  front : source.padded.extract 0 source.size = source.bytes
  zeros : ∀ index, source.size ≤ index → index < source.padded.size →
    source.padded.data[index]? = some 0
  whole : 64 ∣ source.padded.size
  larger : source.size < source.padded.size
  least : ∀ size, 64 ∣ size → source.size < size → source.padded.size ≤ size
  issues : ∃ nulls : List Nat,
    source.issues =
      (if source.chars.head? = some '\uFEFF' then [⟨.byteOrderMark, ⟨0, 3⟩⟩] else []) ++
        nulls.map (fun offset => ⟨.interiorNull, ⟨offset, offset + 1⟩⟩) ∧
    nulls.Pairwise (· < ·) ∧
    ∀ offset, offset ∈ nulls ↔ ∃ before after,
      source.text = before ++ "\x00" ++ after ∧ before.utf8ByteSize = offset

/-- **Sources are laid out in whole lines.** Where the size of a source is an offset, it stands in
front of as few zeros as fill up a line behind it, one at least, and its issues are U+FEFF at its
start and each U+0000 in order. No machine word traps on the way. -/
theorem laidOut_of_size_le (fits : source.size ≤ maxOffset) : source.LaidOut where
  untrapped := layOutTrapping_eq fits
  front := by
    rw [source.extract_padded 0 (Nat.le_refl _)]
    exact ByteArray.extract_zero_size
  zeros _ := data_padded_of_size_le
  whole := source.size_padded ▸ source.dvd_paddedSize
  larger := source.size_padded ▸ source.size_lt_paddedSize
  least _ whole larger := source.size_padded ▸ paddedSize_le whole larger
  issues := by
    obtain ⟨nulls, noticed, ordered, placed⟩ := source.exists_nulls
    refine ⟨nulls, ?_, ordered, placed⟩
    rw [issues, noticed]
    simp only [hasByteOrderMark_iff]
    rfl

/-- A mark with two adjacent zeros behind it, and one at the end behind a wide character. -/
theorem laidOut_of_size_le_nulls :
    (ofText "\uFEFF\x00\x00é\x00").size ≤ maxOffset ∧
      (ofText "\uFEFF\x00\x00é\x00").LaidOut ∧
      (ofText "\uFEFF\x00\x00é\x00").layOutTrapping .linear =
        .ok ⟨(ofText "\uFEFF\x00\x00é\x00").padded, 8,
          [⟨.byteOrderMark, ⟨0, 3⟩⟩, ⟨.interiorNull, ⟨3, 4⟩⟩, ⟨.interiorNull, ⟨4, 5⟩⟩,
            ⟨.interiorNull, ⟨7, 8⟩⟩]⟩ := by
  have fits : (ofText "\uFEFF\x00\x00é\x00").size ≤ maxOffset := by decide
  have laidOut := laidOut_of_size_le fits
  have noticed : (ofText "\uFEFF\x00\x00é\x00").issues =
      [⟨.byteOrderMark, ⟨0, 3⟩⟩, ⟨.interiorNull, ⟨3, 4⟩⟩, ⟨.interiorNull, ⟨4, 5⟩⟩,
        ⟨.interiorNull, ⟨7, 8⟩⟩] := by
    decide +kernel
  refine ⟨fits, laidOut, ?_⟩
  rw [laidOut.untrapped .linear, noticed]
  rfl

end Source

end TemplateScan
