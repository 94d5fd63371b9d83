import TemplateScan.Text.WhiteSpace

/-! # Modes of a pattern

Flags in a pattern change how what stands behind them is read. With free spacing, blanks and
comments between the parts of a pattern count for nothing. Of the other modes only those matter here
that decide whether a part is admitted.
-/

namespace TemplateScan

namespace Pattern

/-- How a stretch of a pattern is read. -/
structure Modes where
  /-- Are upper and lower case the same? -/
  ignoreCase : Bool := false
  /-- Are characters matched, and not bytes? -/
  unicode : Bool := true
  freeSpacing : Bool := false
deriving DecidableEq, Repr

/-- A text behind the blanks and comments at its start; `inComment` says that it starts inside a
comment. A comment runs from a hash to the end of the line. -/
def skipSpacing : (inComment : Bool) → List Char → List Char
  | _, [] => []
  | true, c :: cs => skipSpacing (c != '\n') cs
  | false, c :: cs =>
      if isBlank c then skipSpacing false cs
      else if c = '#' then skipSpacing true cs
      else c :: cs

/-- What is skipped is never more than the text. -/
theorem length_skipSpacing_le (inComment : Bool) (cs : List Char) :
    (skipSpacing inComment cs).length ≤ cs.length := by
  induction cs generalizing inComment with
  | nil => simp [skipSpacing]
  | cons c cs ih =>
      cases inComment with
      | true =>
          have := ih (c != '\n')
          simp only [skipSpacing, List.length_cons]
          omega
      | false =>
          have := ih false
          have := ih true
          simp only [skipSpacing, List.length_cons]
          split
          · omega
          · split
            · omega
            · simp

namespace Modes

/-- A text behind what counts for nothing at its start. -/
def skip (modes : Modes) (cs : List Char) : List Char :=
  if modes.freeSpacing then skipSpacing false cs else cs

/-- The character that is looked at in advance at the start of a text. With free spacing that is the
first one that is no blank; one hash in front of it is passed over, and what follows it is not taken
for a comment. Where there is no such character it is the first one of the text. -/
def ahead? (modes : Modes) (cs : List Char) : Option Char :=
  if modes.freeSpacing then
    let found := match cs.dropWhile isBlank with
      | '#' :: rest => (rest.dropWhile isBlank).head?
      | rest => rest.head?
    found.or cs.head?
  else
    cs.head?

/-! ### Flags -/

/-- The letters that stand for flags. -/
def flagLetters : List Char :=
  ['i', 'm', 's', 'R', 'U', 'u', 'x']

/-- Whether a mode is on behind some flags: a flag turns it on in front of the dash, and off behind
it. -/
def switched (flags : List Char) (flag : Char) (before : Bool) : Bool :=
  if flags.contains flag then !(flags.takeWhile (· != flag)).contains '-' else before

/-- The modes behind some flags. -/
def switch (modes : Modes) (flags : List Char) : Modes where
  ignoreCase := switched flags 'i' modes.ignoreCase
  unicode := switched flags 'u' modes.unicode
  freeSpacing := switched flags 'x' modes.freeSpacing

/-- Are these flags that may stand together: each at most once, with at most one dash among them,
and not at the end? -/
def areFlags (flags : List Char) : Bool :=
  flags.all (fun c => c == '-' || flagLetters.contains c) && decide flags.Nodup &&
    flags.getLast? != some '-'

end Modes

end Pattern

end TemplateScan
