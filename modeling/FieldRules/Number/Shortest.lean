import FieldRules.Number.Binary64

/-!
# The shortest decimal notation of a floating-point number

A finite number is written with the fewest digits that read back as the same
number; of two such notations the one nearer to the number is taken, and the one
with the even last digit if they are equally near.  Numbers from `0.0001` to
below `10 ^ 16` are written with a point, all others with an exponent of at least
two digits.

The digits are searched on decimal grids of growing fineness.  A grid point next
to the number is accepted only when its notation reads back as the number, so
the choice is checked by the reader itself.  The exact expansion of the number,
which is finite, closes the search.
-/

set_option autoImplicit false

namespace FieldRules.Binary64

/-! ## Layout -/

/-- A positive decimal fraction to be laid out: its digits, and the place of the point counted
from the front of the digits. -/
structure Layout where
  digits : List Char
  point : Int
  deriving DecidableEq, Repr

/-- The layout of `digits * 10 ^ exponent`; zeros at the end are moved into the exponent. -/
def Layout.of (digits : Nat) (exponent : Int) : Layout :=
  let all := Nat.toDigits 10 digits
  let kept := (all.reverse.dropWhile (· == '0')).reverse
  ⟨kept, all.length + exponent⟩

/-- The notation with a point and at least one digit on each side of it. -/
def Layout.positional (layout : Layout) : List Char :=
  match layout.point with
  | .ofNat 0 => '0' :: '.' :: layout.digits
  | .ofNat point =>
    let padded := layout.digits ++ List.replicate (point + 1 - layout.digits.length) '0'
    padded.take point ++ '.' :: padded.drop point
  | .negSucc below => '0' :: '.' :: List.replicate (below + 1) '0' ++ layout.digits

/-- The exponent mark, its sign and at least two digits. -/
def exponentMark (exponent : Int) : List Char :=
  let digits := Nat.toDigits 10 exponent.natAbs
  'e' :: (if exponent < 0 then '-' else '+') :: List.replicate (2 - digits.length) '0' ++ digits

/-- The notation with one digit before the point and an exponent; a lone digit has no point. -/
def Layout.scientific (layout : Layout) : List Char :=
  let mantissa := match layout.digits with
    | first :: second :: rest => first :: '.' :: second :: rest
    | digits => digits
  mantissa ++ exponentMark (layout.point - 1)

/-- Points from three places before the digits to sixteen places into them are written out. -/
def Layout.chars (layout : Layout) : List Char :=
  if -4 < layout.point && layout.point ≤ 16 then layout.positional else layout.scientific

/-! ## Digits -/

/-- The place of the point in the decimal expansion of a positive count of units: the number is
below ten to that power and not below the power before. -/
def pointOf (units : Nat) : Int :=
  (Nat.toDigits 10 (units * Nat.pow 10 400 / one)).length - 400

/-- The two neighbours of a count of units on a decimal grid, whose unit is ten to the given
exponent; the nearer one comes first, and the even one of two equally near. -/
def neighbours (units : Nat) (exponent : Int) : List Layout :=
  let (numerator, denominator) := match exponent with
    | .ofNat power => (units, one * Nat.pow 10 power)
    | .negSucc below => (units * Nat.pow 10 (below + 1), one)
  let below := numerator / denominator
  let low := Layout.of below exponent
  let high := Layout.of (below + 1) exponent
  if roundQuotient numerator denominator == below then [low, high] else [high, low]

/-- The exact decimal expansion of a count of units. -/
def expansion (units : Nat) : Layout := Layout.of (units * Nat.pow 5 1074) (-1074)

/-- The shortest notation of a positive magnitude that reads back as the magnitude. -/
def shortest (magnitude : Fin magnitudeCount) : List Char :=
  let units := unitsOf magnitude
  let point := pointOf units
  let readsBack (layout : Layout) : Bool :=
    ofText? layout.chars == some (.finite false magnitude)
  let found := (List.range 17).findSome? fun (places : Nat) =>
    (neighbours units (point - (places + 1))).find? readsBack
  (found.getD (expansion units)).chars

/-- The decimal notation of a floating-point number. -/
def chars : Binary64 → List Char
  | .finite negative magnitude =>
    let body := if magnitude.val == 0 then ['0', '.', '0'] else shortest magnitude
    if negative then '-' :: body else body
  | .infinite negative => if negative then ['-', 'i', 'n', 'f'] else ['i', 'n', 'f']
  | .nan => ['n', 'a', 'n']

/-- The decimal notation of a floating-point number as a string. -/
def text (number : Binary64) : String := String.ofList number.chars

/-! ## Reading names -/

/-- Read a number that may also be spelled `inf`, `infinity` or `nan`, with an optional sign; the
names are expected in lower case. -/
def ofNamedText? (s : List Char) : Option Binary64 :=
  let (negative, body) := splitSign s
  if body == ['i', 'n', 'f'] || body == ['i', 'n', 'f', 'i', 'n', 'i', 't', 'y'] then
    some (.infinite negative)
  else if body == ['n', 'a', 'n'] then some .nan
  else ofText? s

end FieldRules.Binary64
