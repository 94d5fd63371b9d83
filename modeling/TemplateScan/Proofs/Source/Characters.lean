import TemplateScan.Lexer
import TemplateScan.Proofs.Text
import TemplateScan.Source.QuotedString

/-! # Sources by characters

A source is read by byte offset, and its offsets split into two sorts: those where a whole number
of characters has been read, and those inside a character. `Source.LeavesAt` names the first sort
together with the text that is left there, and every way of reading a source is described at such
an offset by what it does to that text. An offset is of the first sort exactly where it passes the
test on its byte (`Source.isBoundary_iff`).
-/

namespace TemplateScan

/-! ### The bytes of a character -/

theorem size_utf8Encode (text : List Char) : text.utf8Encode.size = byteLength text := by
  induction text with
  | nil => rfl
  | cons c text ih =>
      rw [← List.singleton_append, List.utf8Encode_append, ByteArray.size_append, ih,
        List.utf8Encode_singleton, List.size_toByteArray, String.length_utf8EncodeChar]
      rfl

/-- Bytes are few enough to be looked at one by one. -/
theorem forall_byte_of_forall_lt {P : UInt8 → Prop} (all : ∀ n < 256, P (UInt8.ofNat n))
    (byte : UInt8) : P byte := by
  have here := all byte.toNat byte.toNat_lt
  rwa [UInt8.ofNat_toNat] at here

theorem byte_of_ascii {c : Char} (narrow : c.utf8Size = 1) : c.val.toUInt8 < 0x80 := by
  have small : c.val ≤ 127 := Char.utf8Size_eq_one_iff.mp narrow
  rw [UInt8.lt_iff_toNat_lt, UInt32.toNat_toUInt8]
  have : c.val.toNat ≤ 127 := UInt32.le_iff_toNat_le.mp small
  have : (0x80 : UInt8).toNat = 128 := rfl
  omega

theorem eq_of_byte_eq {c d : Char} (narrow : c.utf8Size = 1) (narrow' : d.utf8Size = 1)
    (same : c.val.toUInt8 = d.val.toUInt8) : c = d := by
  have small : c.val.toNat ≤ 127 :=
    UInt32.le_iff_toNat_le.mp (Char.utf8Size_eq_one_iff.mp narrow)
  have small' : d.val.toNat ≤ 127 :=
    UInt32.le_iff_toNat_le.mp (Char.utf8Size_eq_one_iff.mp narrow')
  have values := congrArg UInt8.toNat same
  rw [UInt32.toNat_toUInt8, UInt32.toNat_toUInt8] at values
  apply Char.ext
  apply UInt32.toNat_inj.mp
  omega

/-- Behind the first byte of a character stand continuation bytes only. -/
theorem continuation_of_pos {c : Char} {i : Nat} {byte : UInt8} (behind : 0 < i)
    (read : (String.utf8EncodeChar c)[i]? = some byte) : byte &&& 0xC0 = 0x80 := by
  have continues : ∀ byte : UInt8, (byte &&& 0x3F ||| 0x80) &&& 0xC0 = 0x80 :=
    forall_byte_of_forall_lt (by decide +kernel)
  obtain ⟨bound, read⟩ := List.getElem?_eq_some_iff.mp read
  rw [String.length_utf8EncodeChar] at bound
  have read := List.getElem?_eq_some_iff.mpr ⟨_, read⟩
  obtain size | size | size | size := c.utf8Size_eq
  · omega
  · rw [String.utf8EncodeChar_eq_cons_cons size] at read
    obtain rfl : i = 1 := by omega
    cases read
    exact continues _
  · rw [String.utf8EncodeChar_eq_cons_cons_cons size] at read
    obtain rfl | rfl : i = 1 ∨ i = 2 := by omega
    all_goals
      cases read
      exact continues _
  · rw [String.utf8EncodeChar_eq_cons_cons_cons_cons size] at read
    obtain rfl | rfl | rfl : i = 1 ∨ i = 2 ∨ i = 3 := by omega
    all_goals
      cases read
      exact continues _

/-- The first byte of a character tells its width, and is no continuation byte. -/
theorem leadWidth_of_zero {c : Char} {byte : UInt8}
    (read : (String.utf8EncodeChar c)[0]? = some byte) :
    leadWidth byte = c.utf8Size ∧ byte &&& 0xC0 ≠ 0x80 := by
  obtain size | size | size | size := c.utf8Size_eq
  · rw [String.utf8EncodeChar_eq_singleton size] at read
    cases read
    rw [size]
    have ascii : ∀ byte : UInt8, byte < 0x80 → leadWidth byte = 1 ∧ byte &&& 0xC0 ≠ 0x80 :=
      forall_byte_of_forall_lt (by decide +kernel)
    exact ascii _ (byte_of_ascii size)
  · rw [String.utf8EncodeChar_eq_cons_cons size] at read
    cases read
    rw [size]
    generalize (c.val >>> 6).toUInt8 = byte
    revert byte
    exact forall_byte_of_forall_lt (by decide +kernel)
  · rw [String.utf8EncodeChar_eq_cons_cons_cons size] at read
    cases read
    rw [size]
    generalize (c.val >>> 12).toUInt8 = byte
    revert byte
    exact forall_byte_of_forall_lt (by decide +kernel)
  · rw [String.utf8EncodeChar_eq_cons_cons_cons_cons size] at read
    cases read
    rw [size]
    generalize (c.val >>> 18).toUInt8 = byte
    revert byte
    exact forall_byte_of_forall_lt (by decide +kernel)

/-- An ASCII byte is a character of its own, and part of no other. -/
theorem byte_eq_ascii_iff {c d : Char} {i : Nat} {byte : UInt8} (narrow : d.utf8Size = 1)
    (read : (String.utf8EncodeChar c)[i]? = some byte) : byte = d.val.toUInt8 ↔ c = d := by
  have ascii := byte_of_ascii narrow
  constructor
  · rintro rfl
    by_cases behind : 0 < i
    · have continues := continuation_of_pos behind read
      have plain : ∀ byte : UInt8, byte < 0x80 → byte &&& 0xC0 ≠ 0x80 :=
        forall_byte_of_forall_lt (by decide +kernel)
      exact absurd continues (plain _ ascii)
    · obtain rfl : i = 0 := by omega
      have width := (leadWidth_of_zero read).1
      have plain : ∀ byte : UInt8, byte < 0x80 → leadWidth byte = 1 :=
        forall_byte_of_forall_lt (by decide +kernel)
      rw [plain _ ascii] at width
      rw [String.utf8EncodeChar_eq_singleton width.symm] at read
      exact eq_of_byte_eq width.symm narrow (Option.some.inj read)
  · rintro rfl
    rw [String.utf8EncodeChar_eq_singleton narrow] at read
    obtain ⟨bound, read⟩ := List.getElem?_eq_some_iff.mp read
    rw [← read, List.getElem_singleton]

/-! ### The text that is left at an offset -/

namespace Source

/-- The characters of a source. -/
def chars (source : Source) : List Char :=
  source.text.toList

/-- A whole number of characters stands in front of `offset`, and `after` is what is left. -/
def LeavesAt (source : Source) (offset : Nat) (after : List Char) : Prop :=
  ∃ before, source.chars = before ++ after ∧ byteLength before = offset

variable {source : Source}

theorem utf8Encode_chars (source : Source) : source.chars.utf8Encode = source.bytes := by
  rw [chars, String.utf8Encode_toList]
  rfl

theorem byteLength_chars (source : Source) : byteLength source.chars = source.size := by
  rw [← size_utf8Encode, utf8Encode_chars]
  rfl

theorem leavesAt_zero (source : Source) : source.LeavesAt 0 source.chars :=
  ⟨[], rfl, rfl⟩

theorem leavesAt_size (source : Source) : source.LeavesAt source.size [] :=
  ⟨source.chars, (List.append_nil _).symm, source.byteLength_chars⟩

namespace LeavesAt

variable {offset : Nat} {text : List Char}

theorem add_byteLength (left : source.LeavesAt offset text) :
    offset + byteLength text = source.size := by
  obtain ⟨before, parts, rfl⟩ := left
  rw [← byteLength_chars, parts, byteLength_append]

theorem le_size (left : source.LeavesAt offset text) : offset ≤ source.size := by
  have := left.add_byteLength
  omega

theorem lt_size {c : Char} (left : source.LeavesAt offset (c :: text)) : offset < source.size := by
  have total := left.add_byteLength
  rw [byteLength_cons] at total
  have := c.utf8Size_pos
  omega

theorem drop {front back : List Char} (left : source.LeavesAt offset (front ++ back)) :
    source.LeavesAt (offset + byteLength front) back := by
  obtain ⟨before, parts, rfl⟩ := left
  refine ⟨before ++ front, ?_, byteLength_append before front⟩
  rw [parts, List.append_assoc]

theorem eq {other : List Char} (left : source.LeavesAt offset text)
    (right : source.LeavesAt offset other) : text = other := by
  obtain ⟨before, parts, width⟩ := left
  obtain ⟨before', parts', width'⟩ := right
  exact (append_inj_of_byteLength (parts.symm.trans parts') (width.trans width'.symm)).2

/-- What is left at an offset is part of what is left in front of it. -/
theorem split {other : Nat} {rest : List Char} (left : source.LeavesAt offset text)
    (later : source.LeavesAt other rest) (ordered : offset ≤ other) :
    ∃ between, text = between ++ rest ∧ other = offset + byteLength between := by
  obtain ⟨before, parts, rfl⟩ := left
  obtain ⟨longer, others, rfl⟩ := later
  rw [parts] at others
  obtain ⟨between, rfl, rfl⟩ := append_of_byteLength_le others ordered
  exact ⟨between, rfl, byteLength_append before between⟩

theorem drop_marker {marker : List Char} (left : source.LeavesAt offset text)
    (here : marker <+: text) :
    source.LeavesAt (offset + byteLength marker) (text.drop marker.length) := by
  obtain ⟨rest, rfl⟩ := here
  rw [List.drop_left]
  exact left.drop

theorem tail {c : Char} (left : source.LeavesAt offset (c :: text)) :
    source.LeavesAt (offset + c.utf8Size) text := by
  have whole : source.LeavesAt offset ([c] ++ text) := left
  have dropped := whole.drop
  rwa [byteLength_cons, byteLength_nil, Nat.add_zero] at dropped

theorem bytes_eq (left : source.LeavesAt offset text) :
    ∃ before : ByteArray, source.bytes = before ++ text.utf8Encode ∧ before.size = offset := by
  obtain ⟨before, parts, rfl⟩ := left
  refine ⟨before.utf8Encode, ?_, size_utf8Encode before⟩
  rw [← utf8Encode_chars, parts, List.utf8Encode_append]

/-- The bytes of a source from an offset on are those of the characters left there. -/
theorem byteAt_eq {c : Char} {i : Nat} (left : source.LeavesAt offset (c :: text))
    (inside : i < c.utf8Size) :
    (String.utf8EncodeChar c)[i]? = some (source.byteAt (offset + i)) := by
  obtain ⟨before, split, rfl⟩ := left.bytes_eq
  have encoded : i < (String.utf8EncodeChar c).length := by
    rwa [String.length_utf8EncodeChar]
  have bound : before.size + i < source.bytes.size := by
    rw [split, ← List.singleton_append, List.utf8Encode_append, List.utf8Encode_singleton,
      ByteArray.size_append, ByteArray.size_append, List.size_toByteArray]
    omega
  rw [byteAt, dif_pos bound, List.getElem?_eq_getElem encoded]
  congr 1
  simp only [split]
  rw [ByteArray.getElem_append_right (Nat.le_add_right _ _)]
  simp only [Nat.add_sub_cancel_left, ← List.singleton_append (l := text),
    List.utf8Encode_append, List.utf8Encode_singleton]
  rw [ByteArray.getElem_append_left (by rwa [List.size_toByteArray]), List.getElem_toByteArray]

theorem lead_eq {c : Char} (left : source.LeavesAt offset (c :: text)) :
    (String.utf8EncodeChar c)[0]? = some (source.byteAt offset) :=
  left.byteAt_eq c.utf8Size_pos

/-- The character read at an offset is the first one left there. -/
theorem charAt?_eq (left : source.LeavesAt offset text) : source.charAt? offset = text.head? := by
  obtain ⟨before, split, rfl⟩ := left.bytes_eq
  rw [charAt?, ByteArray.utf8DecodeChar?_eq_utf8DecodeChar?_extract, split,
    ByteArray.extract_append_eq_right rfl ByteArray.size_append]
  cases text with
  | nil => rfl
  | cons c text => exact List.utf8DecodeChar?_utf8Encode_cons

theorem widthAt_eq {c : Char} (left : source.LeavesAt offset (c :: text)) :
    Lexer.widthAt source offset = c.utf8Size := by
  have total := left.add_byteLength
  rw [byteLength_cons] at total
  rw [Lexer.widthAt, (leadWidth_of_zero left.lead_eq).1]
  omega

theorem hasAt_iff (left : source.LeavesAt offset text) (marker : List Char) :
    source.hasAt offset marker = true ↔ marker <+: text := by
  induction marker generalizing offset text with
  | nil =>
      rw [hasAt]
      exact ⟨fun _ => List.nil_prefix, fun _ => rfl⟩
  | cons m marker ih =>
      rw [hasAt, left.charAt?_eq, Bool.and_eq_true, beq_iff_eq]
      cases text with
      | nil =>
          constructor
          · rintro ⟨impossible, _⟩
            cases impossible
          · intro impossible
            exact absurd impossible.length_le (Nat.not_succ_le_zero _)
      | cons c text =>
          rw [List.head?_cons, Option.some.injEq, List.cons_prefix_cons]
          constructor
          · rintro ⟨rfl, rest⟩
            exact ⟨rfl, (ih left.tail).mp rest⟩
          · rintro ⟨rfl, rest⟩
            exact ⟨rfl, (ih left.tail).mpr rest⟩

theorem skipBlanks_eq (left : source.LeavesAt offset text) :
    source.skipBlanks offset = offset + byteLength (text.takeWhile isBlank) := by
  induction text generalizing offset with
  | nil =>
      unfold skipBlanks
      split
      next c read => rw [left.charAt?_eq] at read; cases read
      · rfl
  | cons c text ih =>
      unfold skipBlanks
      split
      next d read =>
        rw [left.charAt?_eq] at read
        cases read
        split
        next blank =>
          rw [ih left.tail, List.takeWhile_cons_of_pos blank, byteLength_cons, Nat.add_assoc]
        next blank => rw [List.takeWhile_cons_of_neg blank, byteLength_nil, Nat.add_zero]
      next read => rw [left.charAt?_eq] at read; cases read

/-- Nothing but the text in between is cut out between two offsets of a source. -/
theorem slice_eq {front back : List Char} (left : source.LeavesAt offset (front ++ back)) :
    source.slice ⟨offset, offset + byteLength front⟩ = String.ofList front := by
  have bound := left.drop.le_size
  obtain ⟨before, split, rfl⟩ := left.bytes_eq
  rw [List.utf8Encode_append] at split
  have cutOut : source.bytes.extract before.size (before.size + byteLength front) =
      front.utf8Encode := by
    have inner := ByteArray.extract_append_size_add (a := before)
      (b := front.utf8Encode ++ back.utf8Encode) (i := 0) (j := byteLength front)
    rw [Nat.add_zero] at inner
    rw [split, inner, ByteArray.extract_append_eq_left (size_utf8Encode front).symm]
  rw [slice, if_pos ⟨Nat.le_add_right _ _, bound⟩, cutOut, String.fromUTF8?,
    dif_pos ByteArray.isValidUTF8_utf8Encode]
  rfl

theorem isBoundary (left : source.LeavesAt offset text) : source.isBoundary offset = true := by
  cases text with
  | nil =>
      have ends := left.add_byteLength
      rw [byteLength_nil, Nat.add_zero] at ends
      rw [Source.isBoundary, ends, if_neg (Nat.lt_irrefl _), beq_self_eq_true]
  | cons c text =>
      rw [Source.isBoundary, if_pos left.lt_size, bne_iff_ne]
      exact (leadWidth_of_zero left.lead_eq).2

theorem cut_eq {front back : List Char} (left : source.LeavesAt offset (front ++ back)) :
    source.cut ⟨offset, offset + byteLength front⟩ = .ok (String.ofList front) := by
  rw [cut, if_pos ⟨Nat.le_add_right _ _, left.isBoundary, left.drop.isBoundary⟩, left.slice_eq]

end LeavesAt

/-- The mark at the start of a source is in the source. -/
theorem three_le_size (marked : source.hasByteOrderMark = true) : 3 ≤ source.size := by
  apply Nat.lt_of_not_le
  intro short
  have outside : source.byteAt 2 = 0 := dif_neg (Nat.not_lt.mpr short)
  simp [hasByteOrderMark, outside] at marked

/-- Every offset in a source is that of a character or inside one. -/
theorem exists_leavesAt_of_lt {offset : Nat} (bound : offset < source.size) :
    ∃ start c text i, source.LeavesAt start (c :: text) ∧ i < c.utf8Size ∧ offset = start + i := by
  have located : ∀ (text : List Char) (start : Nat), source.LeavesAt start text →
      start ≤ offset → ∃ start c text i,
        source.LeavesAt start (c :: text) ∧ i < c.utf8Size ∧ offset = start + i := by
    intro text
    induction text with
    | nil =>
        intro start left reached
        have ends := left.add_byteLength
        rw [byteLength_nil] at ends
        omega
    | cons c text ih =>
        intro start left reached
        by_cases inside : offset < start + c.utf8Size
        · exact ⟨start, c, text, offset - start, left, by omega, by omega⟩
        · exact ih (start + c.utf8Size) left.tail (by omega)
  exact located source.chars 0 source.leavesAt_zero (Nat.zero_le _)

/-- The test on a byte finds the offsets in front of which a whole number of characters stands. -/
theorem isBoundary_iff {offset : Nat} :
    source.isBoundary offset = true ↔ ∃ text, source.LeavesAt offset text := by
  constructor
  · intro boundary
    by_cases bound : offset < source.size
    · obtain ⟨start, c, text, i, left, inside, rfl⟩ := exists_leavesAt_of_lt bound
      by_cases first : i = 0
      · subst first
        exact ⟨c :: text, left⟩
      · rw [isBoundary, if_pos bound, bne_iff_ne] at boundary
        have continues := continuation_of_pos (Nat.pos_of_ne_zero first) (left.byteAt_eq inside)
        exact absurd continues boundary
    · rw [isBoundary, if_neg bound, beq_iff_eq] at boundary
      exact ⟨[], boundary ▸ source.leavesAt_size⟩
  · rintro ⟨text, left⟩
    exact left.isBoundary

/-- What is left at an offset is cut out up to the end. -/
theorem LeavesAt.rest_eq {offset : Nat} {text : List Char} (left : source.LeavesAt offset text) :
    source.slice ⟨offset, source.size⟩ = String.ofList text := by
  have whole := left
  rw [← List.append_nil text] at whole
  rw [← left.add_byteLength]
  exact whole.slice_eq

/-! ### Quoted strings -/

theorem findEither?_add {first second : UInt8} {offset width : Nat}
    (bound : offset + width ≤ source.size)
    (neither : ∀ i < width,
      source.byteAt (offset + i) ≠ first ∧ source.byteAt (offset + i) ≠ second) :
    source.findEither? first second offset = source.findEither? first second (offset + width) := by
  induction width generalizing offset with
  | zero => rfl
  | succ width ih =>
      have here := neither 0 (Nat.succ_pos width)
      rw [Nat.add_zero] at here
      rw [findEither?, if_pos (by omega), if_neg (not_or.mpr here), ih (by omega)]
      · rw [Nat.add_assoc, Nat.add_comm 1 width]
      · intro i inside
        rw [Nat.add_assoc, Nat.add_comm 1 i]
        exact neither (i + 1) (Nat.succ_lt_succ inside)

namespace LeavesAt

variable {offset : Nat} {text : List Char} {quote c : Char}

/-- The search by bytes for a quote or a backslash goes by characters. -/
theorem findEither?_eq_add (left : source.LeavesAt offset (c :: text))
    (narrow : quote.utf8Size = 1) (other : c ≠ quote) (plain : c ≠ '\\') :
    source.findEither? quote.val.toUInt8 backslash offset =
      source.findEither? quote.val.toUInt8 backslash (offset + c.utf8Size) := by
  apply findEither?_add left.tail.le_size
  intro i inside
  have read := left.byteAt_eq inside
  constructor
  · intro same
    exact other ((byte_eq_ascii_iff narrow read).mp same)
  · intro same
    exact plain ((byte_eq_ascii_iff (d := '\\') rfl read).mp same)

theorem findEither?_eq_here (left : source.LeavesAt offset (c :: text))
    (found : c = quote ∨ c = '\\') (narrow : quote.utf8Size = 1) :
    source.findEither? quote.val.toUInt8 backslash offset = some offset := by
  rw [findEither?, if_pos left.lt_size, if_pos]
  rcases found with same | same
  · exact .inl ((byte_eq_ascii_iff narrow left.lead_eq).mpr same)
  · exact .inr ((byte_eq_ascii_iff (d := '\\') rfl left.lead_eq).mpr same)

end LeavesAt

theorem stringEnd_congr {quote : UInt8} {offset offset' : Nat}
    (same : source.findEither? quote backslash offset =
      source.findEither? quote backslash offset') :
    source.stringEnd quote offset = source.stringEnd quote offset' := by
  unfold stringEnd
  rw [same]

theorem stringEnd_of_found {quote : UInt8} {offset found : Nat}
    (here : source.findEither? quote backslash offset = some found) :
    source.stringEnd quote offset =
      if source.byteAt found = quote then .ok (some (found + 1))
      else if found + 1 < source.size then
        match source.charAt? (found + 1) with
        | some escaped => source.stringEnd quote (found + 1 + escaped.utf8Size)
        | none => .error .misplacedCut
      else source.stringEnd quote (found + 1) := by
  rw [stringEnd]
  split
  · next absent => rw [here] at absent; cases absent
  · next again => rw [here] at again; cases again; rfl

theorem stringEnd_of_absent {quote : UInt8} {offset : Nat}
    (absent : source.findEither? quote backslash offset = none) :
    source.stringEnd quote offset = .ok none := by
  unfold stringEnd
  rw [absent]

namespace LeavesAt

variable {offset : Nat} {text : List Char} {quote : Char}

theorem stringEnd_nil (left : source.LeavesAt offset []) (quote : UInt8) :
    source.stringEnd quote offset = .ok none := by
  have ends := left.add_byteLength
  rw [byteLength_nil, Nat.add_zero] at ends
  apply stringEnd_of_absent
  rw [findEither?, if_neg (by omega)]

/-- The end of a quoted string, looked for by bytes, is where its text ends by characters. No
offset on the way lies inside a character, so the search meets no fault. -/
theorem stringEnd_eq (left : source.LeavesAt offset text) (narrow : quote.utf8Size = 1) :
    source.stringEnd quote.val.toUInt8 offset =
      .ok ((splitString? quote text).map fun parts => offset + byteLength parts.1) := by
  fun_induction splitString? quote text generalizing offset with
  | case1 => exact left.stringEnd_nil _
  | case2 text =>
      rw [stringEnd_of_found (left.findEither?_eq_here (.inl rfl) narrow),
        if_pos ((byte_eq_ascii_iff narrow left.lead_eq).mpr rfl), Option.map_some, byteLength_cons,
        byteLength_nil, narrow]
  | case3 different =>
      have ends := left.add_byteLength
      have width : byteLength ['\\'] = 1 := rfl
      rw [stringEnd_of_found (left.findEither?_eq_here (.inr rfl) narrow),
        if_neg (fun same => different ((byte_eq_ascii_iff narrow left.lead_eq).mp same)),
        if_neg (by omega)]
      exact left.tail.stringEnd_nil _
  | case4 escaped text different ih =>
      have next : source.LeavesAt (offset + 1) (escaped :: text) := left.tail
      rw [stringEnd_of_found (left.findEither?_eq_here (.inr rfl) narrow),
        if_neg (fun same => different ((byte_eq_ascii_iff narrow left.lead_eq).mp same)),
        if_pos next.lt_size, next.charAt?_eq]
      simp only [List.head?_cons]
      rw [ih next.tail, Option.map_map]
      congr 2
      funext parts
      simp only [Function.comp_apply, byteLength_cons]
      have width : '\\'.utf8Size = 1 := rfl
      omega
  | case5 c text different plain ih =>
      rw [stringEnd_congr (left.findEither?_eq_add narrow different plain), ih left.tail,
        Option.map_map]
      congr 2
      funext parts
      simp only [Function.comp_apply, byteLength_cons]
      omega

end LeavesAt

end Source

end TemplateScan
