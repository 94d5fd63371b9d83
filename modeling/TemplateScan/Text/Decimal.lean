/-! # Decimal numbers

The texts that stand for a real number: digits with a point somewhere among them and an exponent
behind them, or a word for what is no finite number.
-/

namespace TemplateScan

namespace Decimal

/-- A text without one sign in front of it. -/
def unsigned (cs : List Char) : List Char :=
  match cs with
  | '+' :: rest => rest
  | '-' :: rest => rest
  | rest => rest

/-- Is a text empty or an exponent? -/
def isExponent (cs : List Char) : Bool :=
  match cs with
  | [] => true
  | mark :: rest =>
      (mark == 'e' || mark == 'E') && !(unsigned rest).isEmpty && (unsigned rest).all Char.isDigit

/-- Is a text made of digits, with a point or none and an exponent or none? -/
def isFinite (cs : List Char) : Bool :=
  let whole := cs.takeWhile Char.isDigit
  match cs.dropWhile Char.isDigit with
  | '.' :: rest =>
      !(whole ++ rest.takeWhile Char.isDigit).isEmpty && isExponent (rest.dropWhile Char.isDigit)
  | rest => !whole.isEmpty && isExponent rest

/-- Is a text a word for what is no finite number? Upper and lower case are the same. -/
def isWord (cs : List Char) : Bool :=
  let word := cs.map Char.toLower
  word == "inf".toList || word == "infinity".toList || word == "nan".toList

end Decimal

/-- Does a text stand for a real number, for an infinity or for no number? -/
def isDecimal (cs : List Char) : Bool :=
  Decimal.isFinite (Decimal.unsigned cs) || Decimal.isWord (Decimal.unsigned cs)

end TemplateScan
