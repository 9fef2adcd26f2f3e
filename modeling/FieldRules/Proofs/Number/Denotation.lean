import FieldRules.Proofs.Number.Forms
import Mathlib.Data.List.Forall2
import Mathlib.Data.Nat.Digits.Defs

/-!
# What numbers denote

The number that a text of the form of a number denotes, said without reading it.
A character is the digit of a value when it stands that far behind the zero of a
script, and digits denote the number that has their values in the decimal system,
the last one counting ones.  A fraction denotes its digits, taken as one integer,
times the power of ten that its exponent and its point make.

The readers find exactly these numbers (`IntegerForm.denotes_iff`,
`Decimal.read?_eq_some_iff`).  Two scripts have no digit in common, which makes the
value of a digit unique (`Text.digitValue?_eq_some_iff`).
-/

set_option autoImplicit false

namespace FieldRules

/-! ## Digits -/

namespace Text

/-- A character is the digit of a value below ten: it stands that many places behind the zero of a
script. -/
def IsDigitOf (c : Char) (value : Nat) : Prop :=
  value < 10 ∧ ∃ start ∈ digitZeros, c.toNat = start + value

/-- The number that digits of any script denote: their values are its decimal digits, the last one
counting ones. -/
def Denote (digits : List Char) (number : Nat) : Prop :=
  ∃ values, List.Forall₂ IsDigitOf digits values ∧ number = Nat.ofDigits 10 values.reverse

/-- The digits of two scripts do not overlap. -/
theorem digitZeros_apart : ∀ start ∈ digitZeros, ∀ other ∈ digitZeros,
    start = other ∨ start + 10 ≤ other ∨ other + 10 ≤ start := by
  decide +kernel

/-- **The value of a digit is the distance from the zero of its script.** -/
theorem digitValue?_eq_some_iff {c : Char} {value : Nat} :
    digitValue? c = some value ↔ IsDigitOf c value := by
  constructor
  · intro found
    obtain ⟨start, startFound, rfl⟩ := Option.map_eq_some_iff.mp found
    have near := List.find?_some startFound
    simp only [Bool.and_eq_true, decide_eq_true_eq] at near
    exact ⟨by omega, start, List.mem_of_find?_eq_some startFound, by omega⟩
  · rintro ⟨small, start, member, place⟩
    unfold digitValue?
    cases found : digitZeros.find? fun start => start ≤ c.toNat && c.toNat < start + 10 with
    | none =>
      have far := List.find?_eq_none.mp found start member
      simp only [Bool.and_eq_true, decide_eq_true_eq] at far
      omega
    | some other =>
      have near := List.find?_some found
      simp only [Bool.and_eq_true, decide_eq_true_eq] at near
      have apart := digitZeros_apart start member other (List.mem_of_find?_eq_some found)
      rw [Option.map_some, Option.some.injEq]
      omega

theorem forall₂_isDigitOf_iff {digits : List Char} {values : List Nat} :
    List.Forall₂ IsDigitOf digits values ↔
      (∀ c ∈ digits, isDigit c = true) ∧ values = digitValues digits := by
  induction digits generalizing values with
  | nil => simp [digitValues, List.forall₂_nil_left_iff]
  | cons c digits ih =>
    simp only [List.forall₂_cons_left_iff, ih, ← digitValue?_eq_some_iff, List.forall_mem_cons]
    constructor
    · rintro ⟨value, -, found, ⟨behind, rfl⟩, rfl⟩
      exact ⟨⟨by rw [isDigit, found]; rfl, behind⟩, by simp [digitValues, found]⟩
    · rintro ⟨⟨digit, behind⟩, rfl⟩
      obtain ⟨value, found⟩ := Option.isSome_iff_exists.mp digit
      exact ⟨value, _, found, ⟨behind, rfl⟩, by simp [digitValues, found]⟩

/-- Counting from the front and counting from the back give the same number. -/
theorem ofDigits_eq (base : Nat) (values : List Nat) :
    ofDigits base values = Nat.ofDigits base values.reverse := by
  induction values with
  | nil => rfl
  | cons d values ih =>
    rw [ofDigits_cons, List.reverse_cons, Nat.ofDigits_append, Nat.ofDigits_singleton, ih,
      List.length_reverse]
    ring

theorem denote_iff {digits : List Char} (allDigits : ∀ c ∈ digits, isDigit c = true)
    {number : Nat} : Denote digits number ↔ number = ofDigits 10 (digitValues digits) := by
  simp only [Denote, forall₂_isDigitOf_iff, ofDigits_eq]
  constructor
  · rintro ⟨_, ⟨-, rfl⟩, same⟩
    exact same
  · intro same
    exact ⟨_, ⟨allDigits, rfl⟩, same⟩

end Text

/-! ## Integers -/

/-- The number that an integer denotes: what its digits denote, below zero behind a minus. -/
def IntegerForm.Denotes (form : IntegerForm) (number : Int) : Prop :=
  ∃ magnitude : Nat, Text.Denote form.digits magnitude ∧
    number = if form.sign = ['-'] then -(magnitude : Int) else magnitude

theorem IntegerForm.denotes_iff (form : IntegerForm) {number : Int} :
    form.Denotes number ↔
      number = IntegerText.toInt ⟨form.sign == ['-'], Text.digitValues form.digits⟩ := by
  simp only [Denotes, Text.denote_iff form.allDigits, exists_eq_left, IntegerText.toInt, withSign,
    beq_iff_eq]

/-- Every integer denotes a number. -/
theorem IntegerForm.exists_denotes (form : IntegerForm) : ∃ number, form.Denotes number :=
  ⟨_, form.denotes_iff.mpr rfl⟩

/-! ## Decimal fractions -/

/-- The number that an exponent denotes, zero if there is no exponent. -/
inductive ExponentDenotes : List Char → Int → Prop where
  | absent : ExponentDenotes [] 0
  | marked (mark : Char) (isMark : mark = 'e' ∨ mark = 'E') (form : IntegerForm) (number : Int)
      (denotes : form.Denotes number) : ExponentDenotes (mark :: form.chars) number

/-- What a decimal fraction denotes: its sign, its digits as one integer, and the power of ten that
the last digit counts, which is the exponent less the digits behind the point. -/
structure DecimalForm.Denotes (form : DecimalForm) (number : Decimal) : Prop where
  sign : number.negative = true ↔ form.sign = ['-']
  digits : List.Forall₂ Text.IsDigitOf (form.whole ++ form.fraction.tail) number.digits
  exponent : ExponentDenotes form.exponent (number.exponent + form.fraction.tail.length)

theorem IsFraction.tail_digits {fraction : List Char} (isFraction : IsFraction fraction) :
    ∀ c ∈ fraction.tail, Text.isDigit c = true := by
  rcases isFraction with rfl | ⟨digits, rfl, allDigits⟩
  · simp
  · exact allDigits

namespace Decimal

theorem readExponent?_eq_some_iff {s : List Char} {number : Int} :
    readExponent? s = some number ↔ ExponentDenotes s number := by
  constructor
  · intro found
    cases s with
    | nil =>
      obtain rfl : 0 = number := Option.some.inj found
      exact .absent
    | cons mark rest =>
      simp only [readExponent?, Option.ite_none_right_eq_some, Bool.or_eq_true, beq_iff_eq,
        Option.map_eq_some_iff, IntegerText.read?_eq_some_iff] at found
      obtain ⟨isMark, written, ⟨form, rfl, rfl⟩, rfl⟩ := found
      exact .marked mark isMark form _ (form.denotes_iff.mpr rfl)
  · intro denotes
    cases denotes with
    | absent => rfl
    | marked mark isMark form number denotes =>
      have read := IntegerText.read?_chars form
      rw [form.denotes_iff.mp denotes]
      simp [readExponent?, isMark, read]

/-- A text of the form of a decimal fraction is read by its parts. -/
theorem read?_chars (form : DecimalForm) :
    read? form.chars = (readExponent? form.exponent).map fun exponent =>
      ⟨form.sign == ['-'], Text.digitValues (form.whole ++ form.fraction.tail),
        exponent - form.fraction.tail.length⟩ := by
  have stop := fraction_stop form.isFraction form.isExponent
  have whole : Text.digitRun (form.whole ++ (form.fraction ++ form.exponent)) = form.whole :=
    Text.takeWhile_append_of_stop form.wholeDigits stop
  have rest := Text.dropWhile_append_of_stop form.wholeDigits stop
  unfold read? DecimalForm.chars
  rw [splitSign_append form.isSign form.head_not_sign]
  dsimp only
  rw [rest, splitFraction_append form.isFraction form.isExponent, whole,
    if_neg (hasDigit_iff.mpr form.hasDigit)]

/-- **A text is read as a decimal fraction exactly when it has the form of one that denotes it.** -/
theorem read?_eq_some_iff {s : List Char} {number : Decimal} :
    read? s = some number ↔ ∃ form : DecimalForm, form.chars = s ∧ form.Denotes number := by
  constructor
  · intro found
    obtain ⟨form, rfl⟩ := isSome_read?_iff.mp (Option.isSome_of_eq_some found)
    rw [read?_chars, Option.map_eq_some_iff] at found
    obtain ⟨exponent, read, rfl⟩ := found
    refine ⟨form, rfl, ?_, ?_, ?_⟩
    · exact beq_iff_eq
    · exact Text.forall₂_isDigitOf_iff.mpr
        ⟨List.forall_mem_append.mpr ⟨form.wholeDigits, form.isFraction.tail_digits⟩, rfl⟩
    · dsimp only
      rw [Int.sub_add_cancel]
      exact readExponent?_eq_some_iff.mp read
  · rintro ⟨form, rfl, sign, digits, exponent⟩
    have negative : (form.sign == ['-']) = number.negative := by
      rw [Bool.eq_iff_iff, sign, beq_iff_eq]
    rw [read?_chars, readExponent?_eq_some_iff.mpr exponent, negative,
      ← (Text.forall₂_isDigitOf_iff.mp digits).2, Option.map_some, Int.add_sub_cancel]

end Decimal

/-- The digits of two scripts beside each other, and a point behind them. -/
example : IntegerText.read? ['-', '٣', '4'] = some ⟨true, [3, 4]⟩ ∧
    Decimal.read? ['٣', '.', '4', 'E', '2'] = some ⟨false, [3, 4], 1⟩ := by
  decide +kernel

end FieldRules
