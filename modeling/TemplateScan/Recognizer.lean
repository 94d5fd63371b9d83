import TemplateScan.Cursor
import TemplateScan.Text.WhiteSpace

/-! # Recognizing content and block comments

One attempt at a token is a single pass forward over a cursor.

* Where comments are offered without content, blanks in front of the token are skipped.
* A slash, where comments are offered, can only start a block comment. It runs up to the first
  star and slash behind its opening; without them the attempt is refused.
* Where content is offered, text runs up to the first directive marker or the end of input, and
  an empty run is refused.

A refusal says nothing about its cause.
-/

namespace TemplateScan

namespace Recognizer

variable {σ : Type} [Cursor σ]

open Cursor

/-- Skips the blanks in front of the probe. -/
def skipBlanks (s : σ) : σ :=
  if _hblank : atEnd s = false ∧ isBlank (lookahead s) = true then skipBlanks (skip s) else s
termination_by remaining s
decreasing_by exact remaining_skip_lt s _hblank.1

/-- Runs through a block comment, from behind its opening to behind its closing star and slash. -/
def closeComment (s : σ) : Option TokenKind × σ :=
  if _hend : atEnd s = true then
    (none, s)
  else if lookahead s = '*' then
    let star := advance s
    if lookahead star = '/' then
      (some .comment, markEnd (advance star))
    else
      closeComment star
  else
    closeComment (advance s)
termination_by remaining s
decreasing_by
  all_goals exact remaining_advance_lt s (by simpa using _hend)

/-- Attempts a block comment where the lookahead is a slash. -/
def comment (s : σ) : Option TokenKind × σ :=
  let slash := advance (markEnd s)
  if lookahead slash = '*' then closeComment (advance slash) else (none, slash)

/-- Runs through literal text. A bracket is a tentative end, which stands if a percent sign
follows; `nonempty` says whether the run already holds a character. -/
def content (nonempty : Bool) (s : σ) : Option TokenKind × σ :=
  if _hend : atEnd s = true then
    if nonempty then (some .content, markEnd s) else (none, s)
  else if lookahead s = '[' then
    let bracket := advance (markEnd s)
    if lookahead bracket = '%' then
      (if nonempty then some .content else none, bracket)
    else
      content true bracket
  else
    content true (advance s)
termination_by remaining s
decreasing_by
  · have hopen : atEnd (markEnd s) = false := by rw [atEnd_markEnd]; simpa using _hend
    have := remaining_advance_lt (markEnd s) hopen
    rwa [remaining_markEnd] at this
  · exact remaining_advance_lt s (by simpa using _hend)

/-- One attempt at a token of an offered kind: the kind with the end committed, or a refusal. -/
def recognize (offered : Offered) (s : σ) : Option TokenKind × σ :=
  let s := if offered.insideDirective then skipBlanks s else s
  if offered.comment ∧ lookahead s = '/' then
    comment s
  else if offered.content then
    content false s
  else
    (none, s)

/-- One attempt at a token that also reports the kind: was a token accepted? -/
def scan (offered : Offered) (s : σ) : Bool × σ :=
  match recognize offered s with
  | (some kind, s) => (true, setResult s kind)
  | (none, s) => (false, s)

end Recognizer

end TemplateScan
