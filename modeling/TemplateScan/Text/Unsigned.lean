/-! # Unsigned numbers

Numbers in decimal notation that fit into 64 bits.
-/

namespace TemplateScan

/-- The digits of a number in decimal notation, with one plus sign in front of them or none. -/
def unsignedDigits? (cs : List Char) : Option (List Char) :=
  let digits := match cs with
    | '+' :: digits => digits
    | digits => digits
  if digits ≠ [] ∧ digits.all Char.isDigit then some digits else none

/-- The value of decimal digits. -/
def digitsValue (digits : List Char) : Nat :=
  digits.foldl (fun value digit => 10 * value + (digit.toNat - '0'.toNat)) 0

/-- The greatest number of 64 bits. -/
def maxUnsigned : Nat :=
  18446744073709551615

/-- The number that a text stands for, if it is one of at most 64 bits. -/
def unsigned? (cs : List Char) : Option Nat :=
  ((unsignedDigits? cs).map digitsValue).filter (· ≤ maxUnsigned)

end TemplateScan
