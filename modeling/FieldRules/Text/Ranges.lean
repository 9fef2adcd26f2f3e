/-!
# Character classes as ranges of code points

A class of characters is given by the ranges of code points that belong to it.
The tables of this library are written in this form, so that membership is a
comparison of numbers and can be decided for every character.
-/

set_option autoImplicit false

namespace FieldRules.Text

/-- Whether a character lies in one of the ranges, both ends included. -/
def inRanges (ranges : List (Nat × Nat)) (c : Char) : Bool :=
  ranges.any fun range => range.1 ≤ c.toNat && c.toNat ≤ range.2

end FieldRules.Text
