import FieldRules.Number.Integer

/-!
# Decimal fractions

The notation of a number with a point or an exponent: an optional sign, digits
with at most one point among or beside them and at least one digit in all, and
an optional exponent.  An integer in decimal notation has this form too.

The notation is read into its sign, its digits and the power of ten that the
last digit counts, so that nothing is rounded here.
-/

set_option autoImplicit false

namespace FieldRules

/-- A decimal fraction: its digits, taken as one integer, times a power of ten. -/
structure Decimal where
  negative : Bool
  digits : List Nat
  exponent : Int
  deriving DecidableEq, Repr

namespace Decimal

/-- Read an exponent: nothing at all, or the letter `e` in either case and an integer. -/
def readExponent? : List Char → Option Int
  | [] => some 0
  | c :: rest => if c == 'e' || c == 'E' then (IntegerText.read? rest).map (·.toInt) else none

/-- Read the digits behind a point, if a point comes first. -/
def splitFraction : List Char → List Char × List Char
  | '.' :: rest => (Text.digitRun rest, rest.dropWhile Text.isDigit)
  | s => ([], s)

/-- Read a decimal fraction that makes up the whole text. -/
def read? (s : List Char) : Option Decimal :=
  let (negative, body) := splitSign s
  let whole := Text.digitRun body
  let (fraction, rest) := splitFraction (body.dropWhile Text.isDigit)
  if whole.isEmpty && fraction.isEmpty then none
  else (readExponent? rest).map fun exponent =>
    ⟨negative, Text.digitValues (whole ++ fraction), exponent - fraction.length⟩

/-- The digits that count: those from the first one that is not zero. -/
def significant (number : Decimal) : List Nat := number.digits.dropWhile (· == 0)

end Decimal

end FieldRules
