import TemplateScan.Text.ExtendingMark
import TemplateScan.Text.Ignorable
import TemplateScan.Text.Unprintable

/-! # Quoted text

A text in double quotes on one line. A quote, a backslash and a few controls are written behind a
backslash; a character that would not show up on its own is written as its code point.
-/

namespace TemplateScan

namespace Quoted

/-- A character by its code point, in lower-case hexadecimal digits without leading zeros. -/
def codePoint (c : Char) : List Char :=
  ['\\', 'u', '\x7b'] ++ Nat.toDigits 16 c.toNat ++ ['\x7d']

/-- Is a character of a text written as its code point? -/
def isHidden (c : Char) : Bool :=
  isExtendingMark c || isUnprintable c || isIgnorable c

/-- How a character of a text is written between the quotes. -/
def encodeChar (c : Char) : List Char :=
  if c = '\x00' then ['\\', '0']
  else if c = '\t' then ['\\', 't']
  else if c = '\r' then ['\\', 'r']
  else if c = '\n' then ['\\', 'n']
  else if c = '\x22' then ['\\', '\x22']
  else if c = '\\' then ['\\', '\\']
  else if isHidden c then codePoint c
  else [c]

/-- A text in quotes. -/
def encode (cs : List Char) : List Char :=
  '\x22' :: cs.flatMap encodeChar ++ ['\x22']

end Quoted

/-- A text in double quotes, on one line. -/
def quoted (text : String) : String :=
  String.ofList (Quoted.encode text.toList)

end TemplateScan
