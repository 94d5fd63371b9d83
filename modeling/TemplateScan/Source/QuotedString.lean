import TemplateScan.Source

/-! # Quoted strings

A quoted string in a directive runs up to the first quote of its own kind that no backslash takes
out of account. It is looked for by bytes: neither a quote nor a backslash is part of a longer
character.
-/

namespace TemplateScan

/-- The byte that escapes the character behind it in a quoted string. -/
def backslash : UInt8 :=
  0x5C

/-- The offset behind the closing quote of a string, looked for from an offset in it; none where it
is never closed. A backslash takes the character behind it out of account. -/
def Source.stringEnd (source : Source) (quote : UInt8) (offset : Nat) : Checked (Option Nat) :=
  match _hfound : source.findEither? quote backslash offset with
  | none => .ok none
  | some found =>
      if source.byteAt found = quote then
        .ok (some (found + 1))
      else if found + 1 < source.size then
        match source.charAt? (found + 1) with
        | some escaped => source.stringEnd quote (found + 1 + escaped.utf8Size)
        | none => .error .misplacedCut
      else
        source.stringEnd quote (found + 1)
termination_by source.size - offset
decreasing_by
  all_goals
    have hbounds := Source.findEither?_bounds _hfound
    omega

/-- A string ends behind the place from which its end was looked for. -/
theorem Source.lt_of_stringEnd {source : Source} {quote : UInt8} {offset stop : Nat}
    (h : source.stringEnd quote offset = .ok (some stop)) : offset < stop := by
  fun_induction Source.stringEnd source quote offset with
  | case1 => cases h
  | case2 offset found hfound _ =>
      cases h
      have := findEither?_bounds hfound
      omega
  | case3 offset found hfound _ _ escaped _ ih =>
      have := findEither?_bounds hfound
      have := ih h
      omega
  | case4 => cases h
  | case5 offset found hfound _ _ ih =>
      have := findEither?_bounds hfound
      have := ih h
      omega

end TemplateScan
