import TemplateScan.Text.Alphabetic
import TemplateScan.Text.Numeric

/-! # Letters and numerals -/

namespace TemplateScan

/-- Is a character a letter or a numeral of some script? -/
def isAlphanumeric (c : Char) : Bool :=
  isAlphabetic c || isNumeric c

end TemplateScan
