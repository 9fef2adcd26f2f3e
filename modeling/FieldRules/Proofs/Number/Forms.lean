import FieldRules.Proofs.Number.Digits
import FieldRules.Number.Binary64

/-!
# The forms of numbers

What the text of a number is made of, said without reading it.  An integer is a
sign, which may be left out, and one digit or more of any script.  A decimal
fraction is a sign, digits with a point among them or at either end, and an
exponent; it has a digit, and it may have neither a point nor an exponent.

The readers accept exactly the texts of these forms
(`IntegerText.read?_eq_some_iff`, `Decimal.isSome_read?_iff`).
-/

set_option autoImplicit false

namespace FieldRules

/-! ## Forms -/

/-- The sign in front of a number, which may be left out. -/
def IsSign (s : List Char) : Prop := s = [] ∨ s = ['+'] ∨ s = ['-']

/-- An integer: possibly a sign, and one digit or more. -/
structure IntegerForm where
  sign : List Char
  digits : List Char
  isSign : IsSign sign
  nonempty : digits ≠ []
  allDigits : ∀ c ∈ digits, Text.isDigit c = true

/-- The text of an integer. -/
def IntegerForm.chars (form : IntegerForm) : List Char := form.sign ++ form.digits

/-- What follows the whole digits of a decimal fraction: nothing, or a point and digits. -/
def IsFraction (s : List Char) : Prop :=
  s = [] ∨ ∃ digits, s = '.' :: digits ∧ ∀ c ∈ digits, Text.isDigit c = true

/-- An exponent: nothing, or the letter in either case and an integer. -/
def IsExponent (s : List Char) : Prop :=
  s = [] ∨ ∃ mark, (mark = 'e' ∨ mark = 'E') ∧ ∃ form : IntegerForm, s = mark :: form.chars

/-- A decimal fraction: possibly a sign, digits with a point among them or beside them, and an
exponent. -/
structure DecimalForm where
  sign : List Char
  whole : List Char
  fraction : List Char
  exponent : List Char
  isSign : IsSign sign
  wholeDigits : ∀ c ∈ whole, Text.isDigit c = true
  isFraction : IsFraction fraction
  isExponent : IsExponent exponent
  hasDigit : whole ≠ [] ∨ 2 ≤ fraction.length

/-- The text of a decimal fraction. -/
def DecimalForm.chars (form : DecimalForm) : List Char :=
  form.sign ++ (form.whole ++ (form.fraction ++ form.exponent))

/-! ## Signs -/

theorem isDigit_not_sign {c : Char} (digit : Text.isDigit c = true) : c ≠ '+' ∧ c ≠ '-' := by
  constructor
  · rintro rfl
    exact absurd digit (by decide)
  · rintro rfl
    exact absurd digit (by decide)

theorem splitSign_append {sign body : List Char} (isSign : IsSign sign)
    (unsigned : ∀ c ∈ body.head?, c ≠ '+' ∧ c ≠ '-') :
    splitSign (sign ++ body) = (sign == ['-'], body) := by
  rcases isSign with rfl | rfl | rfl
  · exact splitSign_of_not_sign unsigned
  · rfl
  · rfl

theorem exists_sign (s : List Char) :
    ∃ sign, IsSign sign ∧ s = sign ++ (splitSign s).2 ∧ (splitSign s).1 = (sign == ['-']) := by
  unfold splitSign
  split
  · exact ⟨['+'], .inr (.inl rfl), rfl, rfl⟩
  · exact ⟨['-'], .inr (.inr rfl), rfl, rfl⟩
  · exact ⟨[], .inl rfl, rfl, rfl⟩

theorem IntegerForm.head_not_sign (form : IntegerForm) (rest : List Char) :
    ∀ c ∈ (form.digits ++ rest).head?, c ≠ '+' ∧ c ≠ '-' := by
  cases digits : form.digits with
  | nil => exact absurd digits form.nonempty
  | cons c tail =>
    have digit := form.allDigits c (by rw [digits]; exact List.mem_cons_self)
    exact Text.forall_mem_head?_cons (isDigit_not_sign digit) _

/-! ## Integers -/

/-- **A text is read as an integer exactly when it has the form of one.** -/
theorem IntegerText.read?_eq_some_iff {s : List Char} {written : IntegerText} :
    read? s = some written ↔ ∃ form : IntegerForm, form.chars = s ∧
      written = ⟨form.sign == ['-'], Text.digitValues form.digits⟩ := by
  constructor
  · intro found
    obtain ⟨sign, isSign, shape, negative⟩ := exists_sign s
    simp only [read?, Option.ite_none_right_eq_some, Bool.and_eq_true, Bool.not_eq_true',
      List.isEmpty_eq_false_iff, List.all_eq_true, Option.some.injEq] at found
    obtain ⟨⟨nonempty, digits⟩, same⟩ := found
    refine ⟨⟨sign, (splitSign s).2, isSign, nonempty, digits⟩, shape.symm, ?_⟩
    rw [← same, negative]
  · rintro ⟨form, rfl, rfl⟩
    have unsigned := form.head_not_sign []
    rw [List.append_nil] at unsigned
    have all : form.digits.all Text.isDigit = true := List.all_eq_true.mpr form.allDigits
    simp [read?, IntegerForm.chars, splitSign_append form.isSign unsigned, form.nonempty, all]

theorem IntegerText.read?_chars (form : IntegerForm) :
    read? form.chars = some ⟨form.sign == ['-'], Text.digitValues form.digits⟩ :=
  read?_eq_some_iff.mpr ⟨form, rfl, rfl⟩

/-! ## Decimal fractions -/

/-- An exponent starts with no digit, no point and no sign. -/
theorem IsExponent.stop {exponent : List Char} (isExponent : IsExponent exponent) :
    ∀ c ∈ exponent.head?, Text.isDigit c = false ∧ c ≠ '.' ∧ c ≠ '+' ∧ c ≠ '-' := by
  rcases isExponent with rfl | ⟨mark, rfl | rfl, form, rfl⟩
  · simp
  · exact Text.forall_mem_head?_cons (by decide) _
  · exact Text.forall_mem_head?_cons (by decide) _

/-- The whole digits end where the fraction or the exponent starts. -/
theorem fraction_stop {fraction exponent : List Char} (isFraction : IsFraction fraction)
    (isExponent : IsExponent exponent) :
    ∀ c ∈ (fraction ++ exponent).head?, Text.isDigit c = false := by
  rcases isFraction with rfl | ⟨digits, rfl, -⟩
  · intro c first
    exact (isExponent.stop c first).1
  · exact Text.forall_mem_head?_cons (by decide) _

theorem DecimalForm.head_not_sign (form : DecimalForm) :
    ∀ c ∈ (form.whole ++ (form.fraction ++ form.exponent)).head?, c ≠ '+' ∧ c ≠ '-' := by
  cases whole : form.whole with
  | cons c tail =>
    have digit := form.wholeDigits c (by rw [whole]; exact List.mem_cons_self)
    exact Text.forall_mem_head?_cons (isDigit_not_sign digit) _
  | nil =>
    have long := form.hasDigit.resolve_left (fun filled => filled whole)
    rcases form.isFraction with empty | ⟨digits, shape, -⟩
    · rw [empty] at long
      exact absurd long (by decide)
    · rw [shape]
      exact Text.forall_mem_head?_cons (by decide) _

namespace Decimal

theorem isSome_readExponent?_iff {s : List Char} :
    (readExponent? s).isSome = true ↔ IsExponent s := by
  cases s with
  | nil => exact ⟨fun _ => .inl rfl, fun _ => rfl⟩
  | cons c rest =>
    have opened : readExponent? (c :: rest) = if c == 'e' || c == 'E' then
        (IntegerText.read? rest).map (·.toInt) else none := rfl
    rw [opened]
    constructor
    · intro found
      split at found
      · next mark =>
        rw [Option.isSome_map, Option.isSome_iff_exists] at found
        obtain ⟨written, read⟩ := found
        obtain ⟨form, rfl, -⟩ := IntegerText.read?_eq_some_iff.mp read
        exact .inr ⟨c, by simpa using mark, form, rfl⟩
      · exact absurd found (by simp)
    · rintro (empty | ⟨mark, isMark, form, shape⟩)
      · exact absurd empty (by simp)
      · obtain ⟨rfl, rfl⟩ := List.cons.inj shape
        rw [if_pos (by simpa using isMark), IntegerText.read?_chars]
        rfl

theorem splitFraction_append {fraction exponent : List Char} (isFraction : IsFraction fraction)
    (isExponent : IsExponent exponent) :
    splitFraction (fraction ++ exponent) = (fraction.tail, exponent) := by
  have stop : ∀ c ∈ exponent.head?, Text.isDigit c = false :=
    fun c first => (isExponent.stop c first).1
  rcases isFraction with rfl | ⟨digits, rfl, allDigits⟩
  · cases exponent with
    | nil => rfl
    | cons c rest =>
      have noPoint : c ≠ '.' := (isExponent.stop c rfl).2.1
      unfold splitFraction
      split
      · next same => exact absurd (List.cons.inj same).1 noPoint
      · rfl
  · simp only [List.cons_append, splitFraction, Text.digitRun, List.tail_cons,
      Text.takeWhile_append_of_stop allDigits stop, Text.dropWhile_append_of_stop allDigits stop]

/-- A fraction and the rest that it leaves make up the text again. -/
theorem exists_fraction (s : List Char) :
    ∃ fraction, IsFraction fraction ∧ s = fraction ++ (splitFraction s).2 ∧
      fraction.tail = (splitFraction s).1 := by
  unfold splitFraction
  split
  · next rest =>
    refine ⟨'.' :: Text.digitRun rest, .inr ⟨_, rfl, ?_⟩, ?_, rfl⟩
    · intro c member
      exact List.all_eq_true.mp List.all_takeWhile c member
    · rw [List.cons_append, Text.digitRun, List.takeWhile_append_dropWhile]
  · exact ⟨[], .inl rfl, rfl, rfl⟩

theorem hasDigit_iff {whole fraction : List Char} :
    ¬ (whole.isEmpty && fraction.tail.isEmpty) = true ↔ whole ≠ [] ∨ 2 ≤ fraction.length := by
  cases whole with
  | cons c rest => simp
  | nil =>
    match fraction with
    | [] => simp
    | [c] => simp
    | c :: d :: rest => simp

/-- **A text is read as a decimal fraction exactly when it has the form of one.** -/
theorem isSome_read?_iff {s : List Char} :
    (read? s).isSome = true ↔ ∃ form : DecimalForm, form.chars = s := by
  constructor
  · intro found
    obtain ⟨sign, isSign, shape, -⟩ := exists_sign s
    obtain ⟨fraction, isFraction, fractionShape, digits⟩ :=
      exists_fraction ((splitSign s).2.dropWhile Text.isDigit)
    unfold read? at found
    dsimp only at found
    split at found
    · exact absurd found (by simp)
    · next digit =>
      rw [← digits, hasDigit_iff] at digit
      rw [Option.isSome_map, isSome_readExponent?_iff] at found
      refine ⟨⟨sign, Text.digitRun (splitSign s).2, fraction, _, isSign, ?_, isFraction, found,
        digit⟩, ?_⟩
      · intro c member
        exact List.all_eq_true.mp List.all_takeWhile c member
      · unfold DecimalForm.chars
        dsimp only
        rw [← fractionShape, Text.digitRun, List.takeWhile_append_dropWhile, ← shape]
  · rintro ⟨form, rfl⟩
    have stop := fraction_stop form.isFraction form.isExponent
    have split := splitSign_append form.isSign form.head_not_sign
    have whole : Text.digitRun (form.whole ++ (form.fraction ++ form.exponent)) = form.whole :=
      Text.takeWhile_append_of_stop form.wholeDigits stop
    have rest := Text.dropWhile_append_of_stop form.wholeDigits stop
    unfold read? DecimalForm.chars
    rw [split]
    dsimp only
    rw [rest, splitFraction_append form.isFraction form.isExponent, whole,
      if_neg (hasDigit_iff.mpr form.hasDigit), Option.isSome_map, isSome_readExponent?_iff]
    exact form.isExponent

end Decimal

theorem Binary64.isSome_ofText?_iff {s : List Char} :
    (ofText? s).isSome = true ↔ ∃ form : DecimalForm, form.chars = s := by
  rw [ofText?, Option.isSome_map, Decimal.isSome_read?_iff]

end FieldRules
