import FieldRules.Text.DecimalDigit

/-!
# Integers in decimal notation

An integer is written as an optional sign and one or more decimal digits of any
script.  Conversions between numbers and decimal notation are refused beyond a
fixed count of digits, leading zeros included and the sign left out, so that the
time they take stays small.
-/

set_option autoImplicit false

namespace FieldRules

/-- The greatest count of digits that a conversion takes. -/
def digitLimit : Nat := 4300

/-- Why an integer was not converted: its decimal notation has too many digits to be read, or
would have too many to be written. -/
inductive DigitFault where
  | tooLongToRead (digits : Nat)
  | tooLongToWrite
  deriving DecidableEq, Repr

/-- The wording of a refused conversion. -/
def DigitFault.message : DigitFault → String
  | .tooLongToRead digits =>
    "Exceeds the limit (4300 digits) for integer string conversion: value has "
      ++ toString digits
      ++ " digits; use sys.set_int_max_str_digits() to increase the limit"
  | .tooLongToWrite =>
    "Exceeds the limit (4300 digits) for integer string conversion; "
      ++ "use sys.set_int_max_str_digits() to increase the limit"

/-- The sign at the front of a number, `true` for a minus, and the text behind it. -/
def splitSign : List Char → Bool × List Char
  | '+' :: rest => (false, rest)
  | '-' :: rest => (true, rest)
  | s => (false, s)

/-- The integer with the given sign and magnitude. -/
def withSign (negative : Bool) (magnitude : Nat) : Int :=
  if negative then -(magnitude : Int) else magnitude

/-- A text of the form of an integer: its sign and its digits. -/
structure IntegerText where
  negative : Bool
  digits : List Nat
  deriving DecidableEq, Repr

namespace IntegerText

/-- Read an optional sign and one or more digits that make up the whole text. -/
def read? (s : List Char) : Option IntegerText :=
  let (negative, body) := splitSign s
  if !body.isEmpty && body.all Text.isDigit then some ⟨negative, Text.digitValues body⟩ else none

/-- The number that the text denotes. -/
def toInt (text : IntegerText) : Int :=
  withSign text.negative (Text.ofDigits 10 text.digits)

/-- The number that the text denotes, unless it has more digits than a conversion takes. -/
def convert (text : IntegerText) : Except DigitFault Int :=
  if text.digits.length ≤ digitLimit then .ok text.toInt
  else .error (.tooLongToRead text.digits.length)

end IntegerText

/-- The decimal notation of an integer: a minus for negative numbers and the digits without
leading zeros. -/
def integerChars : Int → List Char
  | .ofNat magnitude => Nat.toDigits 10 magnitude
  | .negSucc below => '-' :: Nat.toDigits 10 (below + 1)

/-- The decimal notation of an integer as a string. -/
def integerText (number : Int) : String := String.ofList (integerChars number)

/-- Whether the decimal notation of an integer is within the limit of a conversion. -/
def withinDigitLimit (number : Int) : Bool := (Nat.toDigits 10 number.natAbs).length ≤ digitLimit

/-! ## Reading what was written -/

/-- The digits of a written number have the values that the number is made of. -/
theorem digitValues_toDigits (number : Nat) :
    Text.ofDigits 10 (Text.digitValues (Nat.toDigits 10 number)) = number := by
  have value (d : Nat) (small : d < 10) : Text.digitValue? d.digitChar = some d := by
    have : ∀ d : Fin 10, Text.digitValue? d.val.digitChar = some d.val := by decide
    exact this ⟨d, small⟩
  induction number using Nat.strongRecOn with
  | ind number ih =>
    rw [Nat.toDigits_eq_if (by decide)]
    split
    · next small =>
      simp [Text.digitValues, Text.ofDigits, value number small]
    · next large =>
      have lower : number / 10 < number := by omega
      have last : number % 10 < 10 := by omega
      have front := ih (number / 10) lower
      simp only [Text.digitValues, Text.ofDigits] at front ⊢
      simp only [List.filterMap_append, List.foldl_append, front]
      simp [value (number % 10) last]
      omega

end FieldRules
