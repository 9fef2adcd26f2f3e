import FieldRules.Number.Decimal

/-!
# Binary floating-point numbers of 64 bits

A finite number is a sign and a magnitude.  The magnitudes are numbered in
increasing order, zero first; a magnitude is kept as its number in this order.
In the unit `2 ^ (-1074)`, the smallest magnitude above zero, every magnitude is
a natural number: below `2 ^ 53` the magnitude numbered `n` is `n` units, and
from there on each block of `2 ^ 52` magnitudes is spaced twice as wide as the
one before.

Decimal fractions, sums and products are computed exactly in these units and
then rounded once, to the nearest magnitude and to the even one of two equally
near.
-/

set_option autoImplicit false

namespace FieldRules

/-- How many finite magnitudes there are. -/
def magnitudeCount : Nat := 2047 * Nat.pow 2 52

/-- A floating-point number: finite with a sign and the place of its magnitude, infinite with a
sign, or not a number. -/
inductive Binary64 where
  | finite (negative : Bool) (magnitude : Fin magnitudeCount)
  | infinite (negative : Bool)
  | nan
  deriving DecidableEq

namespace Binary64

/-- The size of a magnitude in units of `2 ^ (-1074)`. -/
def unitsOf (magnitude : Nat) : Nat :=
  if magnitude < Nat.pow 2 52 then magnitude
  else (magnitude % Nat.pow 2 52 + Nat.pow 2 52) * Nat.pow 2 (magnitude / Nat.pow 2 52 - 1)

/-- The quotient rounded to the nearest natural number, to the even one of two equally near. -/
def roundQuotient (numerator denominator : Nat) : Nat :=
  let quotient := numerator / denominator
  let twice := 2 * (numerator % denominator)
  if twice < denominator then quotient
  else if denominator < twice then quotient + 1
  else quotient + quotient % 2

/-- The place of the magnitude nearest to a quotient of units.  The block is found from the
binary length of the quotient; rounding up to the end of a block leads into the next. -/
def nearestMagnitude (numerator denominator : Nat) : Nat :=
  let block := Nat.log2 (numerator / denominator) - 52
  block * Nat.pow 2 52 + roundQuotient numerator (denominator * Nat.pow 2 block)

/-- The number with a sign nearest to a quotient of units, infinite when the magnitude is beyond
the finite ones. -/
def ofUnits (negative : Bool) (numerator denominator : Nat) : Binary64 :=
  let magnitude := nearestMagnitude numerator denominator
  if bounded : magnitude < magnitudeCount then .finite negative ⟨magnitude, bounded⟩
  else .infinite negative

/-- Zero with a sign. -/
def zero (negative : Bool) : Binary64 := .finite negative ⟨0, by decide⟩

/-- The unit count of one. -/
def one : Nat := Nat.pow 2 1074

/-- The number nearest to a decimal fraction.  Fractions far beyond the finite magnitudes, and
those far below the smallest, are settled by the place of their first digit alone. -/
def ofDecimal (number : Decimal) : Binary64 :=
  let digits := number.significant
  let place := digits.length + number.exponent
  if digits.isEmpty || place < -330 then zero number.negative
  else if 310 < place then .infinite number.negative
  else
    let whole := Text.ofDigits 10 digits * one
    match number.exponent with
    | .ofNat power => ofUnits number.negative (whole * Nat.pow 10 power) 1
    | .negSucc below => ofUnits number.negative whole (Nat.pow 10 (below + 1))

/-- Read a decimal fraction as the number nearest to it. -/
def ofText? (s : List Char) : Option Binary64 := (Decimal.read? s).map ofDecimal

/-- Infinities and not-a-numbers have no decimal notation. -/
def isFinite : Binary64 → Bool
  | .finite _ _ => true
  | _ => false

/-! ## Comparison and arithmetic -/

/-- The signed unit count of a finite number. -/
def units? : Binary64 → Option Int
  | .finite negative magnitude => some (withSign negative (unitsOf magnitude))
  | _ => none

/-- Equality of numbers: both zeros are equal, and not-a-number equals nothing. -/
def same : Binary64 → Binary64 → Bool
  | .infinite left, .infinite right => left == right
  | left, right =>
    match left.units?, right.units? with
    | some leftUnits, some rightUnits => leftUnits == rightUnits
    | _, _ => false

/-- Equality of a floating-point number and an integer, as numbers. -/
def sameInt (number : Binary64) (integer : Int) : Bool :=
  number.units? == some (integer * (one : Int))

/-- The number with the opposite sign. -/
def negate : Binary64 → Binary64
  | .finite negative magnitude => .finite (!negative) magnitude
  | .infinite negative => .infinite (!negative)
  | .nan => .nan

/-- Whether the sign is a minus. -/
def isNegative : Binary64 → Bool
  | .finite negative _ | .infinite negative => negative
  | .nan => false

/-- The sum of two numbers, rounded once. -/
def add : Binary64 → Binary64 → Binary64
  | .infinite left, .infinite right => if left == right then .infinite left else .nan
  | .nan, _ | _, .nan => .nan
  | .infinite left, _ => .infinite left
  | _, .infinite right => .infinite right
  | .finite left leftMagnitude, .finite right rightMagnitude =>
    let total := withSign left (unitsOf leftMagnitude) + withSign right (unitsOf rightMagnitude)
    if total == 0 then zero (left && right) else ofUnits (total < 0) total.natAbs 1

/-- The product of two numbers, rounded once. -/
def mul : Binary64 → Binary64 → Binary64
  | .nan, _ | _, .nan => .nan
  | .finite left leftMagnitude, .finite right rightMagnitude =>
    ofUnits (left != right) (unitsOf leftMagnitude * unitsOf rightMagnitude) one
  | left, right =>
    if left.units? == some 0 || right.units? == some 0 then .nan
    else .infinite (left.isNegative != right.isNegative)

/-- The number nearest to a natural number. -/
def ofNat (number : Nat) : Binary64 := ofUnits false (number * one) 1

end Binary64

end FieldRules
