import FieldRules.Text.Ranges

/-!
# Decimal digits of every script

A decimal digit is a character of the category `Nd`.  These characters come in
runs of ten with the values zero to nine in order, so a script is described by
the code point of its zero, and the value of a digit is its distance from that
zero.

The zeros are those of Unicode 14.0.
-/

set_option autoImplicit false

namespace FieldRules.Text

/-- The code point of the digit zero of every script. -/
def digitZeros : List Nat := [
  0x0030, 0x0660, 0x06F0, 0x07C0, 0x0966, 0x09E6, 0x0A66, 0x0AE6, 0x0B66, 0x0BE6,
  0x0C66, 0x0CE6, 0x0D66, 0x0DE6, 0x0E50, 0x0ED0, 0x0F20, 0x1040, 0x1090, 0x17E0,
  0x1810, 0x1946, 0x19D0, 0x1A80, 0x1A90, 0x1B50, 0x1BB0, 0x1C40, 0x1C50, 0xA620,
  0xA8D0, 0xA900, 0xA9D0, 0xA9F0, 0xAA50, 0xABF0, 0xFF10, 0x104A0, 0x10D30, 0x11066,
  0x110F0, 0x11136, 0x111D0, 0x112F0, 0x11450, 0x114D0, 0x11650, 0x116C0, 0x11730, 0x118E0,
  0x11950, 0x11C50, 0x11D50, 0x11DA0, 0x16A60, 0x16AC0, 0x16B50, 0x1D7CE, 0x1D7D8, 0x1D7E2,
  0x1D7EC, 0x1D7F6, 0x1E140, 0x1E2F0, 0x1E950, 0x1FBF0]

/-- The value of a decimal digit, of whatever script. -/
def digitValue? (c : Char) : Option Nat :=
  (digitZeros.find? fun start => start ≤ c.toNat && c.toNat < start + 10).map (c.toNat - ·)

/-- Decimal digits of any script. -/
def isDigit (c : Char) : Bool := (digitValue? c).isSome

/-- The digits at the front of a text. -/
def digitRun (s : List Char) : List Char := s.takeWhile isDigit

/-- The digit values of a text of digits; characters that are no digits are left out. -/
def digitValues (s : List Char) : List Nat := s.filterMap digitValue?

/-- The number that a list of digit values denotes in the given base, most significant first. -/
def ofDigits (base : Nat) (digits : List Nat) : Nat :=
  digits.foldl (fun total digit => total * base + digit) 0

/-! ## Laws -/

/-- The value of a digit is below ten. -/
theorem digitValue?_lt {c : Char} {value : Nat} (found : digitValue? c = some value) :
    value < 10 := by
  obtain ⟨start, startFound, rfl⟩ := Option.map_eq_some_iff.mp found
  have near := List.find?_some startFound
  simp only [Bool.and_eq_true, decide_eq_true_eq] at near
  omega

example : digitValue? '7' = some 7 ∧ digitValue? '\u0669' = some 9 ∧ digitValue? 'x' = none := by
  decide

end FieldRules.Text
