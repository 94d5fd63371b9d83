import TemplateScan.Proofs.Template.Tiling
import TemplateScan.Proofs.Text.Quoted
import TemplateScan.Report.Segments

/-! # Listings read back

A listing is a header and a line for each segment, and a line tells all that it was made of
(`Report.legible_of_segment`). What a line says is an `Entry`. Each part of a line tells its own
end: a number ends at the first character that is no digit, a label at the first space, and the
code of a directive at its closing quote, so nothing that is written in the code can be taken for
what stands behind it. The number of lines is told by the header.
-/

namespace TemplateScan

namespace Report

/-- What a line says about a directive beyond its place. -/
structure Note where
  code : String
  /-- Number of comments. -/
  comments : Nat
deriving DecidableEq, Repr

/-- What a line of a listing says. -/
structure Entry where
  place : Position
  label : String
  span : Span
  /-- For a directive. -/
  note : Option Note
deriving DecidableEq, Repr

/-- What is to be said about a directive. -/
def note (source : Source) : Segment → Checked (Option Note)
  | .directive d => (fun code => some ⟨code, d.comments.length⟩) <$> d.code source
  | _ => .ok none

/-- What is to be said about a segment of a source. -/
def entry (source : Source) (segment : Segment) : Checked Entry :=
  (fun note => ⟨source.position segment.span.start, segment.label, segment.span, note⟩) <$>
    note source segment

/-- What is to be said about the segments of a template, in order. -/
def entries (source : Source) (template : Template) : Checked (List Entry) :=
  template.segments.mapM (entry source)

/-- How a listing starts. -/
def header (path : String) (count : Nat) : String :=
  "Segments for '" ++ path ++ "' (" ++ toString count ++ " segments):\n"

def commentCount (comments : Nat) : String :=
  if comments = 0 then "" else " (" ++ toString comments ++ " comments)"

def Note.render (note : Note) : String :=
  " " ++ quoted note.code ++ commentCount note.comments

def Entry.render (entry : Entry) : String :=
  "  " ++ toString entry.place.line ++ ":" ++ toString entry.place.column ++ " " ++
    padRight 9 entry.label ++ " " ++ entry.span.render ++ entry.note.elim "" Note.render ++ "\n"

/-- A line is what is to be said, written down. -/
theorem segmentLine_eq (source : Source) (segment : Segment) :
    segmentLine source segment = Entry.render <$> entry source segment := by
  cases segment with
  | content => rfl
  | comment => rfl
  | directive d =>
      have comments : (if d.comments.isEmpty then "" else
          " (" ++ toString d.comments.length ++ " comments)") = commentCount d.comments.length := by
        cases d.comments <;> rfl
      rw [segmentLine, entry, note]
      dsimp only
      rw [directiveNote, comments]
      cases d.code source with
      | error => rfl
      | ok code => rfl

theorem toList_header (path : String) (count : Nat) :
    (header path count).toList = ("Segments for '" ++ path ++ "' (").toList ++
      ((toString count).toList ++ " segments):\n".toList) := by
  rw [← String.toList_append, ← String.toList_append, ← String.append_assoc]
  rfl

theorem Entry.toList_render (entry : Entry) :
    entry.render.toList =
      "  ".toList ++ ((toString entry.place.line).toList ++ (":".toList ++
        ((toString entry.place.column).toList ++ (" ".toList ++
          ((padRight 9 entry.label).toList ++ (" ".toList ++ (entry.span.render.toList ++
            ((entry.note.elim "" Note.render).toList ++ "\n".toList)))))))) := by
  simp only [← String.toList_append, ← String.append_assoc]
  rfl

/-! ### Reading -/

/-- A text behind what it must start with. -/
def expect (front : String) (text : List Char) : Option (List Char) :=
  if front.toList <+: text then some (text.drop front.toList.length) else none

/-- The number of comments, where it is told. -/
def readComments (text : List Char) : Option (Nat × List Char) :=
  match expect " " text with
  | none => some (0, text)
  | some text => do
      let text ← expect "(" text
      let (comments, text) := readNumber 10 text
      let text ← expect " comments)" text
      return (comments, text)

/-- What is said about a directive, where there is one. -/
def readNote (text : List Char) : Option (Option Note × List Char) :=
  match expect " " text with
  | none => some (none, text)
  | some text => do
      let (code, text) ← Quoted.read text
      let (comments, text) ← readComments text
      return (some ⟨String.ofList code, comments⟩, text)

/-- The word at the start of a text, and the text behind the spaces that follow it. -/
def readLabel (text : List Char) : String × List Char :=
  (String.ofList (text.takeWhile (· != ' ')),
    (text.dropWhile (· != ' ')).dropWhile (· == ' '))

/-- What a line says, and the text behind it. -/
def readEntry (text : List Char) : Option (Entry × List Char) := do
  let text ← expect "  " text
  let (line, text) := readNumber 10 text
  let text ← expect ":" text
  let (column, text) := readNumber 10 text
  let text ← expect " " text
  let (label, text) := readLabel text
  let (start, text) := readNumber 10 text
  let text ← expect ".." text
  let (stop, text) := readNumber 10 text
  let (note, text) ← readNote text
  let text ← expect "\n" text
  return (⟨⟨line, column⟩, label, ⟨start, stop⟩, note⟩, text)

/-- What a number of lines say, where nothing stands behind them. -/
def readEntries : Nat → List Char → Option (List Entry)
  | 0, text => if text = [] then some [] else none
  | count + 1, text => do
      let (entry, text) ← readEntry text
      let entries ← readEntries count text
      return entry :: entries

/-- What a listing for a path says. -/
def read (path report : String) : Option (List Entry) := do
  let text ← expect ("Segments for '" ++ path ++ "' (") report.toList
  let (count, text) := readNumber 10 text
  let text ← expect " segments):\n" text
  readEntries count text

theorem expect_append (front : String) (rest : List Char) :
    expect front (front.toList ++ rest) = some rest := by
  rw [expect, if_pos (List.prefix_append front.toList rest), List.drop_left]

theorem expect_newline (rest : List Char) : expect " " ("\n".toList ++ rest) = none := by
  rw [expect, if_neg]
  intro starts
  exact absurd (List.cons_prefix_cons.mp starts).1 (by decide)

theorem readDecimal (number : Nat) {rest : List Char} (ends : rest.head?.any isNumeral = false) :
    readNumber 10 ((toString number).toList ++ rest) = (number, rest) := by
  rw [Nat.toString_eq_repr, Nat.toList_repr]
  exact readNumber_toDigits (by decide) (by decide) number ends

theorem readComments_append (comments : Nat) (rest : List Char) :
    readComments ((commentCount comments).toList ++ ("\n".toList ++ rest)) =
      some (comments, "\n".toList ++ rest) := by
  by_cases none : comments = 0
  · rw [commentCount, if_pos none, none, String.toList_empty, List.nil_append, readComments,
      expect_newline]
  · have opening : " (" = " " ++ "(" := by decide
    have shape : (commentCount comments).toList ++ ("\n".toList ++ rest) =
        " ".toList ++ ("(".toList ++ ((toString comments).toList ++
          (" comments)".toList ++ ("\n".toList ++ rest)))) := by
      rw [commentCount, if_neg none, opening]
      simp only [String.toList_append, List.append_assoc]
    rw [shape, readComments, expect_append]
    simp only [expect_append, Option.bind_eq_bind, Option.bind_some]
    rw [readDecimal comments rfl, expect_append]
    rfl

theorem readNote_append (note : Option Note) (rest : List Char) :
    readNote ((note.elim "" Note.render).toList ++ ("\n".toList ++ rest)) =
      some (note, "\n".toList ++ rest) := by
  cases note with
  | none => rw [Option.elim_none, String.toList_empty, List.nil_append, readNote, expect_newline]
  | some note =>
      have shape : note.render.toList ++ ("\n".toList ++ rest) =
          " ".toList ++ (Quoted.encode note.code.toList ++
            ((commentCount note.comments).toList ++ ("\n".toList ++ rest))) := by
        simp only [Note.render, quoted, String.toList_append, String.toList_ofList,
          List.append_assoc]
      rw [Option.elim_some, shape, readNote, expect_append]
      simp only [Quoted.read_encode, readComments_append, Option.bind_eq_bind, Option.bind_some,
        String.ofList_toList]
      rfl

theorem readLabel_append {label : String} (word : ' ' ∉ label.toList) (count : Nat)
    {rest : List Char} (behind : rest.head? ≠ some ' ') :
    readLabel (label.toList ++ (List.replicate count ' ' ++ (" ".toList ++ rest))) =
      (label, rest) := by
  have letters : ∀ c ∈ label.toList, (c != ' ') = true := by
    intro c member
    rw [bne_iff_ne]
    rintro rfl
    exact word member
  have spaces : ∀ c ∈ List.replicate (count + 1) ' ', (c == ' ') = true := by
    intro c member
    rw [List.eq_of_mem_replicate member]
    rfl
  have reached : rest.dropWhile (· == ' ') = rest := by
    cases rest with
    | nil => rfl
    | cons c rest =>
        rw [List.dropWhile_cons_of_neg]
        simpa using behind
  have padding : List.replicate count ' ' ++ (" ".toList ++ rest) =
      List.replicate (count + 1) ' ' ++ rest := by
    rw [List.replicate_succ', List.append_assoc]
    rfl
  have start : (List.replicate (count + 1) ' ' ++ rest).takeWhile (· != ' ') = [] ∧
      (List.replicate (count + 1) ' ' ++ rest).dropWhile (· != ' ') =
        List.replicate (count + 1) ' ' ++ rest :=
    ⟨rfl, rfl⟩
  rw [padding, readLabel, List.takeWhile_append_of_pos letters,
    List.dropWhile_append_of_pos letters, start.1, start.2, List.dropWhile_append_of_pos spaces,
    reached, List.append_nil, String.ofList_toList]

theorem head?_decimal_ne (number : Nat) (rest : List Char) :
    ((toString number).toList ++ rest).head? ≠ some ' ' := by
  have digits := isNumeral_of_mem_toDigits (by decide) (by decide : 10 ≤ 16) number
  rw [Nat.toString_eq_repr, Nat.toList_repr]
  cases spelled : Nat.toDigits 10 number with
  | nil => exact absurd spelled Nat.toDigits_ne_nil
  | cons c others =>
      intro starts
      have numeral := digits c (by rw [spelled]; exact List.mem_cons_self)
      cases starts
      contradiction

theorem head?_note (note : Option Note) (rest : List Char) :
    ((note.elim "" Note.render).toList ++ ("\n".toList ++ rest)).head?.any isNumeral =
      false := by
  cases note with
  | none => rfl
  | some note =>
      rw [Option.elim_some, Note.render, String.toList_append, String.toList_append,
        List.append_assoc, List.append_assoc]
      rfl

/-- A label is one word. -/
def Entry.Labelled (entry : Entry) : Prop :=
  ' ' ∉ entry.label.toList ∧ '\n' ∉ entry.label.toList

/-- A line is read back, whatever stands behind it. -/
theorem readEntry_append {entry : Entry} (labelled : entry.Labelled) (rest : List Char) :
    readEntry (entry.render.toList ++ rest) = some (entry, rest) := by
  have shape : entry.render.toList ++ rest =
      "  ".toList ++ ((toString entry.place.line).toList ++ (":".toList ++
        ((toString entry.place.column).toList ++ (" ".toList ++
          (entry.label.toList ++ (List.replicate (9 - entry.label.length) ' ' ++ (" ".toList ++
            ((toString entry.span.start).toList ++ ("..".toList ++
              ((toString entry.span.stop).toList ++
                ((entry.note.elim "" Note.render).toList ++ ("\n".toList ++ rest)))))))))))) := by
    simp only [Entry.toList_render, Span.render, padRight, String.toList_append,
      String.toList_ofList, List.append_assoc]
  rw [shape, readEntry]
  simp only [expect_append, Option.bind_eq_bind, Option.bind_some]
  rw [readDecimal entry.place.line rfl]
  simp only [expect_append, Option.bind_some]
  rw [readDecimal entry.place.column rfl]
  simp only [expect_append, Option.bind_some]
  rw [readLabel_append labelled.1 _ (head?_decimal_ne _ _)]
  dsimp only
  rw [readDecimal entry.span.start rfl]
  simp only [expect_append, Option.bind_some]
  rw [readDecimal entry.span.stop (head?_note entry.note rest)]
  simp only [readNote_append, expect_append, Option.bind_some]
  rfl

theorem readEntries_append {entries : List Entry}
    (labelled : ∀ entry ∈ entries, entry.Labelled) :
    readEntries entries.length (String.join (entries.map Entry.render)).toList =
      some entries := by
  induction entries with
  | nil => rw [List.map_nil, String.join_nil]; rfl
  | cons entry entries ih =>
      rw [List.forall_mem_cons] at labelled
      rw [List.map_cons, String.join_cons, String.toList_append, List.length_cons, readEntries,
        readEntry_append labelled.1]
      simp only [Option.bind_eq_bind, Option.bind_some, ih labelled.2]
      rfl

/-- A listing is read back. -/
theorem read_listing (path : String) {entries : List Entry}
    (labelled : ∀ entry ∈ entries, entry.Labelled) :
    read path (header path entries.length ++ String.join (entries.map Entry.render)) =
      some entries := by
  have shape : (header path entries.length ++ String.join (entries.map Entry.render)).toList =
      ("Segments for '" ++ path ++ "' (").toList ++ ((toString entries.length).toList ++
        (" segments):\n".toList ++ (String.join (entries.map Entry.render)).toList)) := by
    rw [String.toList_append, toList_header, List.append_assoc, List.append_assoc]
  rw [read, shape, expect_append]
  simp only [Option.bind_eq_bind, Option.bind_some]
  rw [readDecimal entries.length rfl]
  simp only [expect_append, Option.bind_some]
  exact readEntries_append labelled

/-! ### Lines -/

/-- A text that is one line: its only newline is its last character. -/
def OneLine (text : String) : Prop :=
  ∃ front, text.toList = front ++ ['\n'] ∧ '\n' ∉ front

theorem OneLine.count {text : String} (line : OneLine text) : text.toList.count '\n' = 1 := by
  obtain ⟨front, shape, inline⟩ := line
  rw [shape, List.count_append, List.count_eq_zero_of_not_mem inline]
  rfl

theorem inline_decimal (number : Nat) : '\n' ∉ (toString number).toList := by
  rw [Nat.toString_eq_repr, Nat.toList_repr]
  intro member
  have numeral := isNumeral_of_mem_toDigits (by decide) (by decide : 10 ≤ 16) number '\n' member
  contradiction

theorem oneLine_header {path : String} (inline : '\n' ∉ path.toList) (count : Nat) :
    OneLine (header path count) := by
  refine ⟨("Segments for '" ++ path ++ "' (").toList ++
    ((toString count).toList ++ " segments):".toList), ?_, ?_⟩
  · rw [toList_header, List.append_assoc, List.append_assoc]
    rfl
  · simp only [String.toList_append, List.mem_append, inline, inline_decimal]
    decide

theorem Note.inline_render (note : Note) : '\n' ∉ note.render.toList := by
  have code := Quoted.not_mem_newline_encode note.code.toList
  have comments : '\n' ∉ (commentCount note.comments).toList := by
    rw [commentCount]
    split
    · decide
    · simp only [String.toList_append, List.mem_append, inline_decimal]
      decide
  simp only [render, quoted, String.toList_append, String.toList_ofList, List.mem_append, code,
    comments]
  decide

theorem Entry.Labelled.oneLine {entry : Entry} (labelled : entry.Labelled) :
    OneLine entry.render := by
  have label : '\n' ∉ (padRight 9 entry.label).toList := by
    simp [padRight, labelled.2]
  have note : '\n' ∉ (entry.note.elim "" Note.render).toList := by
    cases entry.note with
    | none => exact nofun
    | some note => exact note.inline_render
  refine ⟨_, String.toList_append, ?_⟩
  simp only [Span.render, String.toList_append, List.mem_append, inline_decimal, label, note]
  decide

/-! ### Listings -/

variable {source : Source} {template : Template}

theorem labelled_of_entry {segment : Segment} {told : Entry}
    (stated : entry source segment = .ok told) : told.Labelled := by
  obtain ⟨note, _, rfl⟩ := exists_of_map_eq_ok stated
  cases segment with
  | content => exact (by decide : ' ' ∉ "content".toList ∧ '\n' ∉ "content".toList)
  | comment => exact (by decide : ' ' ∉ "comment".toList ∧ '\n' ∉ "comment".toList)
  | directive => exact (by decide : ' ' ∉ "directive".toList ∧ '\n' ∉ "directive".toList)

/-- The lines of a row of segments are what is to be said about them, written down. -/
theorem lines_of_entries {made : List Segment} {told : List Entry}
    (stated : made.mapM (entry source) = .ok told) :
    made.mapM (segmentLine source) = .ok (told.map Entry.render) ∧ told.length = made.length ∧
      ∀ entry ∈ told, entry.Labelled := by
  induction made generalizing told with
  | nil =>
      cases stated
      exact ⟨rfl, rfl, nofun⟩
  | cons segment made ih =>
      rw [List.mapM_cons] at stated
      cases first : entry source segment with
      | error fault => rw [first] at stated; cases stated
      | ok line =>
          cases others : made.mapM (entry source) with
          | error fault => rw [first, others] at stated; cases stated
          | ok behind =>
              rw [first, others] at stated
              cases stated
              obtain ⟨lines, count, labelled⟩ := ih others
              refine ⟨?_, congrArg (· + 1) count, ?_⟩
              · rw [List.mapM_cons, segmentLine_eq, first, lines]
                rfl
              · exact List.forall_mem_cons.mpr ⟨labelled_of_entry first, labelled⟩

theorem exists_entries (segmented : source.segment = .ok (.ok template)) :
    ∃ told, entries source template = .ok told := by
  have spells := (Source.covers_of_segment segmented).spells source.leavesAt_zero
  refine mapM_isOk ?_
  intro segment member
  cases segment with
  | content => exact ⟨_, rfl⟩
  | comment => exact ⟨_, rfl⟩
  | directive d =>
      obtain ⟨body, spelled⟩ := spells _ member d.body (by simp [Segment.spans])
      exact ⟨_, by rw [entry, note, Directive.code, spelled.cut_eq]; rfl⟩

/-- A source that segments has a listing, and it tells what is to be said. -/
theorem listing_of_segment (path : String) (segmented : source.segment = .ok (.ok template)) :
    ∃ told, entries source template = .ok told ∧ told.length = template.size ∧
      (∀ entry ∈ told, entry.Labelled) ∧
      segments path source =
        .ok (.ok (header path template.size ++ String.join (told.map Entry.render))) ∧
      read path (header path template.size ++ String.join (told.map Entry.render)) =
        some told := by
  obtain ⟨told, stated⟩ := exists_entries segmented
  obtain ⟨lines, count, labelled⟩ := lines_of_entries stated
  refine ⟨told, stated, count, labelled, ?_, ?_⟩
  · rw [segments, segmented]
    change Except.ok <$> segmentListing path source template = _
    rw [segmentListing, lines]
    rfl
  · have readBack := read_listing path labelled
    rwa [count] at readBack

theorem count_newlines {path : String} (inline : '\n' ∉ path.toList) {told : List Entry}
    (labelled : ∀ entry ∈ told, entry.Labelled) (count : Nat) :
    (header path count ++ String.join (told.map Entry.render)).toList.count '\n' =
      1 + told.length := by
  rw [String.toList_append, List.count_append, (oneLine_header inline count).count]
  congr 1
  induction told with
  | nil => rw [List.map_nil, String.join_nil]; rfl
  | cons entry told ih =>
      obtain ⟨first, labelled⟩ := List.forall_mem_cons.mp labelled
      rw [List.map_cons, String.join_cons, String.toList_append, List.count_append,
        first.oneLine.count, ih labelled, List.length_cons, Nat.add_comm]

/-- What a listing tells: a header, then a line for each segment in order, and all that the lines
were made of. No other source with the same listing has anything else to say. -/
structure Legible (path : String) (source : Source) (template : Template) (report : String)
    (told : List Entry) : Prop where
  listed : segments path source = .ok (.ok report)
  stated : entries source template = .ok told
  size : told.length = template.size
  lines : report = header path template.size ++ String.join (told.map Entry.render)
  headed : OneLine (header path template.size)
  lined : ∀ entry ∈ told, OneLine entry.render
  newlines : report.toList.count '\n' = 1 + template.size
  readBack : read path report = some told
  determined : ∀ other otherTemplate, other.segment = .ok (.ok otherTemplate) →
    segments path other = .ok (.ok report) → entries other otherTemplate = .ok told

/-- **Listings can be read back.** A source that segments has a listing of one line for its header
and one for each segment, whatever its text holds, and the listing determines the places, labels
and spans of the segments and the codes and numbers of comments of the directives. -/
theorem legible_of_segment {path : String} (inline : '\n' ∉ path.toList)
    (segmented : source.segment = .ok (.ok template)) :
    ∃ report told, Legible path source template report told := by
  obtain ⟨told, stated, size, labelled, listed, readBack⟩ := listing_of_segment path segmented
  refine ⟨_, told, {
    listed := listed
    stated := stated
    size := size
    lines := rfl
    headed := oneLine_header inline template.size
    lined := fun entry member => (labelled entry member).oneLine
    newlines := by rw [count_newlines inline labelled, size]
    readBack := readBack
    determined := ?_ }⟩
  intro other otherTemplate otherSegmented sameListed
  obtain ⟨otherTold, otherStated, _, _, otherListed, otherReadBack⟩ :=
    listing_of_segment path otherSegmented
  rw [otherListed, Except.ok.injEq, Except.ok.injEq] at sameListed
  rw [sameListed, readBack, Option.some.injEq] at otherReadBack
  rw [otherStated, otherReadBack]

/-- A code with a newline, a quote and what looks like a number of comments in a string. -/
theorem legible_of_segment_newline :
    ∃ report told,
      Legible "a.tpl" (Source.ofText "[% '\n\" (2 comments)' /**/ %]")
        ⟨[.directive ⟨⟨0, 2⟩, ⟨2, 26⟩, ⟨26, 28⟩, false, false, [⟨21, 25⟩]⟩]⟩ report told ∧
      told = [⟨⟨1, 1⟩, "directive", ⟨0, 28⟩, some ⟨"'\n\" (2 comments)' /**/", 1⟩⟩] := by
  have inline : '\n' ∉ "a.tpl".toList := by decide
  have segmented : (Source.ofText "[% '\n\" (2 comments)' /**/ %]").segment =
      .ok (.ok ⟨[.directive ⟨⟨0, 2⟩, ⟨2, 26⟩, ⟨26, 28⟩, false, false, [⟨21, 25⟩]⟩]⟩) := by
    with_unfolding_all rfl
  obtain ⟨report, told, legible⟩ := legible_of_segment inline segmented
  refine ⟨report, told, legible, Except.ok.inj (legible.stated.symm.trans ?_)⟩
  with_unfolding_all rfl

end Report

end TemplateScan
