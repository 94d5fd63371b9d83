import TemplateScan.Span
import TemplateScan.Text.WhiteSpace

/-! # Sources

A source is the UTF-8 form of a template, read by byte offset. Reading a character at an offset
succeeds exactly on character boundaries, and cutting out a range gives its text exactly where
both ends are boundaries. The layout with a sentinel and the encoding issues found in a source
are here too.
-/

namespace TemplateScan

/-- Number of bytes of some characters. -/
def byteLength : List Char → Nat
  | [] => 0
  | c :: cs => c.utf8Size + byteLength cs

/-- The UTF-8 bytes of a text. -/
structure Source where
  bytes : ByteArray
  valid : bytes.IsValidUTF8

/-- A peculiarity of a source that is worth a warning and changes nothing else. -/
inductive EncodingIssueKind where
  /-- The source starts with U+FEFF. -/
  | byteOrderMark
  /-- The source holds U+0000. -/
  | interiorNull
deriving DecidableEq, Repr

/-- The name of an issue in log lines. -/
def EncodingIssueKind.label : EncodingIssueKind → String
  | .byteOrderMark => "Utf8Bom"
  | .interiorNull => "InteriorNull"

/-- An encoding issue and the bytes that give rise to it. -/
structure EncodingIssue where
  kind : EncodingIssueKind
  span : Span
deriving DecidableEq, Repr

namespace Source

/-- The source that holds a text. -/
def ofText (text : String) : Source :=
  ⟨text.toUTF8, text.isValidUTF8⟩

/-- The text that a source holds. -/
def text (source : Source) : String :=
  String.fromUTF8 source.bytes source.valid

@[simp] theorem text_ofText (text : String) : (ofText text).text = text := rfl

/-- Number of bytes. -/
def size (source : Source) : Nat :=
  source.bytes.size

/-- The byte at an offset, and the zero sentinel behind the end. -/
def byteAt (source : Source) (offset : Nat) : UInt8 :=
  if h : offset < source.bytes.size then source.bytes[offset] else 0

/-- The character that starts at an offset; there is none inside a character and at the end. -/
def charAt? (source : Source) (offset : Nat) : Option Char :=
  source.bytes.utf8DecodeChar? offset

/-- A character is only read in front of the end. -/
theorem lt_size_of_charAt? {source : Source} {offset : Nat} {c : Char}
    (h : source.charAt? offset = some c) : offset < source.size :=
  ByteArray.lt_size_of_isSome_utf8DecodeChar? (by rw [charAt?] at h; simp [h])

/-! ### Layout -/

/-- Sources are laid out in lines of this many bytes. -/
def lineSize : Nat :=
  64

/-- The number of bytes of a source with its sentinel, rounded up to whole lines. -/
def paddedSize (source : Source) : Nat :=
  (source.size + 1 + (lineSize - 1)) / lineSize * lineSize

/-- The bytes of a source, then the zero sentinel and zeros up to the end of the line. -/
def padded (source : Source) : ByteArray :=
  source.bytes ++ ⟨Array.replicate (source.paddedSize - source.size) 0⟩

/-! ### Encoding issues -/

/-- The zero bytes at or behind an offset, in order. -/
def nullsFrom (source : Source) (offset : Nat) : List EncodingIssue :=
  if offset < source.size then
    if source.byteAt offset = 0 then
      ⟨.interiorNull, ⟨offset, offset + 1⟩⟩ :: source.nullsFrom (offset + 1)
    else
      source.nullsFrom (offset + 1)
  else
    []
termination_by source.size - offset

/-- Does a source start with the three bytes of U+FEFF? -/
def hasByteOrderMark (source : Source) : Bool :=
  source.byteAt 0 == 0xEF && source.byteAt 1 == 0xBB && source.byteAt 2 == 0xBF

/-- The encoding issues of a source: a mark at its start, then each zero byte in order. -/
def issues (source : Source) : List EncodingIssue :=
  (if source.hasByteOrderMark then [⟨.byteOrderMark, ⟨0, 3⟩⟩] else []) ++ source.nullsFrom 0

/-! ### Cutting out text -/

/-- Is an offset the end of a source, or the place where one of its characters starts? -/
def isBoundary (source : Source) (offset : Nat) : Bool :=
  if offset < source.size then source.byteAt offset &&& 0xC0 != 0x80 else offset == source.size

/-- The bytes of a span read as UTF-8: empty where the span is out of range or reversed, and
where its bytes are not UTF-8. -/
def slice (source : Source) (span : Span) : String :=
  if span.start ≤ span.stop ∧ span.stop ≤ source.size then
    (String.fromUTF8? (source.bytes.extract span.start span.stop)).getD ""
  else
    ""

/-- The text of a span for a caller who promises that it lies in the source with both ends on
character boundaries. -/
def cut (source : Source) (span : Span) : Checked String :=
  if span.start ≤ span.stop ∧ source.isBoundary span.start ∧ source.isBoundary span.stop then
    .ok (source.slice span)
  else
    .error .misplacedCut

/-! ### Looking ahead -/

/-- Does the text at an offset start with the given characters? -/
def hasAt (source : Source) : Nat → List Char → Bool
  | _, [] => true
  | offset, c :: rest =>
      source.charAt? offset == some c && source.hasAt (offset + c.utf8Size) rest

/-- The offset behind the blanks at an offset. -/
def skipBlanks (source : Source) (offset : Nat) : Nat :=
  match _hread : source.charAt? offset with
  | some c => if isBlank c then source.skipBlanks (offset + c.utf8Size) else offset
  | none => offset
termination_by source.size - offset
decreasing_by
  have hsize := lt_size_of_charAt? _hread
  have hwidth := c.utf8Size_pos
  omega

/-- The first offset at or behind `offset` with one of two bytes. -/
def findEither? (source : Source) (first second : UInt8) (offset : Nat) : Option Nat :=
  if offset < source.size then
    if source.byteAt offset = first ∨ source.byteAt offset = second then some offset
    else source.findEither? first second (offset + 1)
  else
    none
termination_by source.size - offset

/-- A byte is found in the source, at or behind the place where the search began. -/
theorem findEither?_bounds {source : Source} {first second : UInt8} {offset found : Nat}
    (h : source.findEither? first second offset = some found) :
    offset ≤ found ∧ found < source.size := by
  fun_induction findEither? source first second offset with
  | case1 offset hsize _ => cases h; exact ⟨Nat.le_refl _, hsize⟩
  | case2 offset hsize _ ih => have := ih h; omega
  | case3 => cases h

/-- Skipping blanks never goes back. -/
theorem le_skipBlanks (source : Source) (offset : Nat) : offset ≤ source.skipBlanks offset := by
  fun_induction skipBlanks source offset with
  | case1 offset c _ _ ih => omega
  | case2 => exact Nat.le_refl _
  | case3 => exact Nat.le_refl _

end Source

end TemplateScan
