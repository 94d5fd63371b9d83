import TemplateScan.Text.Quoted

/-! # Numbers and quoted text read back

A number is read up to the first character that is no digit (`readNumber_toDigits`), and a quoted
text up to its closing quote, whatever stands behind it (`Quoted.read_encode`): each escape tells
its character and its own end. A quoted text is on one line.
-/

namespace TemplateScan

/-! ### Numbers -/

/-- Is a character one of the digits, in lower case where they are letters? -/
def isNumeral (c : Char) : Bool :=
  c.isDigit || ('a' ≤ c && c ≤ 'f')

/-- The value of a digit. -/
def digitValue (c : Char) : Nat :=
  if c.isDigit then c.toNat - 48 else c.toNat - 87

/-- The number at the start of a text, and the text behind its last digit. -/
def readNumber (base : Nat) (text : List Char) : Nat × List Char :=
  ((text.takeWhile isNumeral).foldl (fun number c => base * number + digitValue c) 0,
    text.dropWhile isNumeral)

theorem digitValue_digitChar : ∀ digit < 16, digitValue digit.digitChar = digit := by
  decide

theorem isNumeral_digitChar : ∀ digit < 16, isNumeral digit.digitChar = true := by
  decide

section

variable {base : Nat} (binary : 1 < base) (small : base ≤ 16)
include binary small

theorem isNumeral_of_mem_toDigits (number : Nat) :
    ∀ c ∈ Nat.toDigits base number, isNumeral c = true := by
  induction number using Nat.base_induction base binary with
  | single number below =>
      intro c member
      rw [Nat.toDigits_of_lt_base below, List.mem_singleton] at member
      rw [member]
      exact isNumeral_digitChar number (by omega)
  | digit number last below positive ih =>
      intro c member
      rw [← Nat.toDigits_append_toDigits binary positive below, Nat.toDigits_of_lt_base below,
        List.mem_append, List.mem_singleton] at member
      rcases member with member | rfl
      · exact ih c member
      · exact isNumeral_digitChar last (by omega)

theorem foldl_digitValue_toDigits (number : Nat) :
    (Nat.toDigits base number).foldl (fun number c => base * number + digitValue c) 0 =
      number := by
  induction number using Nat.base_induction base binary with
  | single number below =>
      rw [Nat.toDigits_of_lt_base below, List.foldl_cons, List.foldl_nil,
        digitValue_digitChar number (by omega), Nat.mul_zero, Nat.zero_add]
  | digit number last below positive ih =>
      rw [← Nat.toDigits_append_toDigits binary positive below, Nat.toDigits_of_lt_base below,
        List.foldl_append, ih, List.foldl_cons, List.foldl_nil,
        digitValue_digitChar last (by omega)]

/-- A number is read back in front of anything that does not start with a digit. -/
theorem readNumber_toDigits (number : Nat) {rest : List Char}
    (ends : rest.head?.any isNumeral = false) :
    readNumber base (Nat.toDigits base number ++ rest) = (number, rest) := by
  have digits := isNumeral_of_mem_toDigits binary small number
  have behind : rest.takeWhile isNumeral = [] ∧ rest.dropWhile isNumeral = rest := by
    cases rest with
    | nil => exact ⟨rfl, rfl⟩
    | cons c rest =>
        have last : ¬ isNumeral c = true := by
          simpa using ends
        exact ⟨List.takeWhile_cons_of_neg last, List.dropWhile_cons_of_neg last⟩
  rw [readNumber, List.takeWhile_append_of_pos digits, List.dropWhile_append_of_pos digits,
    behind.1, behind.2, List.append_nil, foldl_digitValue_toDigits binary small]

end

/-! ### Quoted text -/

namespace Quoted

/-- The character that a mark behind a backslash stands for. -/
def unescape (mark : Char) : Option Char :=
  if mark = '0' then some '\x00'
  else if mark = 't' then some '\t'
  else if mark = 'r' then some '\r'
  else if mark = 'n' then some '\n'
  else if mark = '\x22' ∨ mark = '\\' then some mark
  else none

/-- The ways of writing a character: a mark behind a backslash, its code point, or itself. -/
inductive Spelling : Char → List Char → Prop
  | escaped {c mark : Char} (stands : unescape mark = some c) : Spelling c ['\\', mark]
  | numbered (c : Char) : Spelling c (codePoint c)
  | plain {c : Char} (unescaped : c ≠ '\\') (unquoted : c ≠ '\x22') (inline : c ≠ '\n') :
      Spelling c [c]

theorem spelling_encodeChar (c : Char) : Spelling c (encodeChar c) := by
  unfold encodeChar
  split
  · subst c; exact .escaped rfl
  split
  · subst c; exact .escaped rfl
  split
  · subst c; exact .escaped rfl
  split
  · subst c; exact .escaped rfl
  split
  · subst c; exact .escaped rfl
  split
  · subst c; exact .escaped rfl
  split
  · exact .numbered c
  · exact .plain ‹_› ‹_› ‹_›

/-- The character that is written at the start of a text, and the text behind it. -/
def readChar : List Char → Option (Char × List Char)
  | [] => none
  | ['\\'] => none
  | '\\' :: mark :: rest =>
      if mark = 'u' then
        some ((readNumber 16 (rest.drop 1)).map Char.ofNat (List.drop 1))
      else
        (unescape mark).map fun c => (c, rest)
  | c :: rest => some (c, rest)

theorem length_lt_of_readChar {text rest : List Char} {c : Char}
    (reads : readChar text = some (c, rest)) : rest.length < text.length := by
  unfold readChar at reads
  split at reads
  · cases reads
  · cases reads
  · rename_i mark behind
    split at reads
    · cases reads
      have shorter := (List.dropWhile_suffix isNumeral (l := behind.drop 1)).length_le
      simp only [List.length_drop, List.length_cons] at shorter ⊢
      omega
    · obtain ⟨_, _, same⟩ := Option.map_eq_some_iff.mp reads
      cases same
      simp only [List.length_cons]
      omega
  · cases reads
    exact Nat.lt_succ_self _

/-- The text that is written up to the first quote that ends it, and what stands behind it. -/
def readInner (text : List Char) : Option (List Char × List Char) :=
  if text.head? = some '\x22' then
    some ([], text.tail)
  else
    match _reads : readChar text with
    | none => none
    | some (c, rest) => (readInner rest).map fun parts => (c :: parts.1, parts.2)
termination_by text.length
decreasing_by exact length_lt_of_readChar _reads

/-- The quoted text at the start of a text, and what stands behind it. -/
def read (text : List Char) : Option (List Char × List Char) :=
  if text.head? = some '\x22' then readInner text.tail else none

namespace Spelling

variable {c : Char} {written : List Char}

theorem readChar_append (spelling : Spelling c written) (rest : List Char) :
    readChar (written ++ rest) = some (c, rest) := by
  cases spelling with
  | escaped stands =>
      rename_i mark
      have known : mark ≠ 'u' := by
        rintro rfl
        cases stands
      rw [List.cons_append, List.singleton_append, readChar, if_neg known, stands]
      rfl
  | numbered =>
      have digits := readNumber_toDigits (by decide) (Nat.le_refl 16) c.toNat
        (rfl : ('\x7d' :: rest).head?.any isNumeral = false)
      rw [codePoint, List.append_assoc, List.append_assoc, List.cons_append, List.cons_append,
        List.singleton_append, List.singleton_append, readChar, if_pos rfl, List.drop_one,
        List.tail_cons, digits, Prod.map_apply, Char.ofNat_toNat]
      rfl
  | plain unescaped _ _ =>
      rw [List.singleton_append, readChar]
      · exact fun escaped _ => unescaped escaped
      · exact fun _ _ escaped _ => unescaped escaped

theorem head?_append_ne (spelling : Spelling c written) (rest : List Char) :
    (written ++ rest).head? ≠ some '\x22' := by
  cases spelling with
  | escaped => exact nofun
  | numbered => exact nofun
  | plain _ unquoted _ => exact fun same => unquoted (Option.some.inj same)

theorem not_mem_newline (spelling : Spelling c written) : '\n' ∉ written := by
  cases spelling with
  | escaped stands =>
      rename_i mark
      have known : mark ≠ '\n' := by
        rintro rfl
        cases stands
      simpa using known.symm
  | numbered =>
      have digits := isNumeral_of_mem_toDigits (by decide) (Nat.le_refl 16) c.toNat '\n'
      have absent : '\n' ∉ Nat.toDigits 16 c.toNat := fun member => by
        have := digits member
        contradiction
      simpa [codePoint] using absent
  | plain _ _ inline => simpa using inline.symm

end Spelling

/-- A text is read back up to the quote behind it. -/
theorem readInner_append (text rest : List Char) :
    readInner (text.flatMap encodeChar ++ '\x22' :: rest) = some (text, rest) := by
  induction text with
  | nil => rw [List.flatMap_nil, List.nil_append, readInner, List.head?_cons, if_pos rfl,
      List.tail_cons]
  | cons c text ih =>
      have spelling := spelling_encodeChar c
      rw [List.flatMap_cons, List.append_assoc, readInner, if_neg (spelling.head?_append_ne _)]
      split
      · rename_i reads
        rw [spelling.readChar_append] at reads
        cases reads
      · rename_i reads
        rw [spelling.readChar_append] at reads
        cases reads
        rw [ih]
        rfl

theorem read_encode (text rest : List Char) :
    read (encode text ++ rest) = some (text, rest) := by
  rw [encode, List.cons_append, List.cons_append, List.append_assoc, read,
    List.head?_cons, if_pos rfl, List.tail_cons]
  exact readInner_append text rest

theorem not_mem_newline_encode (text : List Char) : '\n' ∉ encode text := by
  simp [encode, (spelling_encodeChar _).not_mem_newline]

end Quoted

end TemplateScan
