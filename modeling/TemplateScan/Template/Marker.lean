/-! # Markers

The characters that open and close directives and open block comments.
-/

namespace TemplateScan

namespace Marker

/-- Opens a directive. -/
def directiveOpen : List Char :=
  ['[', '%']

/-- Opens a directive and trims the text in front of it. -/
def directiveOpenTrim : List Char :=
  ['[', '%', '-']

/-- Closes a directive. -/
def directiveClose : List Char :=
  ['%', ']']

/-- Closes a directive and trims the text behind it. -/
def directiveCloseTrim : List Char :=
  ['-', '%', ']']

/-- Opens a block comment. -/
def commentOpen : List Char :=
  ['/', '*']

end Marker

end TemplateScan
