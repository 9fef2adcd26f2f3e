import FieldRules.Proofs.Number.Digits
import FieldRules.Number.Shortest
import Mathlib.Algebra.Order.Field.Power
import Mathlib.Tactic.FieldSimp
import Mathlib.Tactic.Ring

/-!
# Reading a layout

A layout of digits is written with a point or with an exponent.  Either way it
is read as a decimal fraction that denotes the number of the layout
(`Layout.read?_chars`).  Zeros that pad the digits on either side count for
nothing, which is the only difference between the digits of the layout and those
that are read.
-/

set_option autoImplicit false

namespace FieldRules

/-! ## Reading the parts of a decimal fraction -/

namespace Decimal

/-- The number that a decimal fraction denotes, apart from its sign. -/
def value (number : Decimal) : ℚ :=
  (Text.ofDigits 10 number.digits : ℚ) * 10 ^ number.exponent

theorem digitRun_append {digits rest : List Char} (ascii : Text.AsciiDigits digits)
    (stop : ∀ c ∈ rest.head?, Text.isDigit c = false) :
    Text.digitRun (digits ++ rest) = digits :=
  Text.takeWhile_append_of_stop ascii.isDigit stop

theorem dropDigits_append {digits rest : List Char} (ascii : Text.AsciiDigits digits)
    (stop : ∀ c ∈ rest.head?, Text.isDigit c = false) :
    (digits ++ rest).dropWhile Text.isDigit = rest :=
  Text.dropWhile_append_of_stop ascii.isDigit stop

theorem splitSign_digits {digits : List Char} (ascii : Text.AsciiDigits digits)
    (nonempty : digits ≠ []) (rest : List Char) :
    splitSign (digits ++ rest) = (false, digits ++ rest) := by
  apply splitSign_of_not_sign
  intro c first
  cases digits with
  | nil => exact absurd rfl nonempty
  | cons d digits =>
    have same : d = c := by simpa using first
    exact ascii.not_sign c (by rw [same]; exact List.mem_cons_self)

/-- Digits, a point, digits and an exponent are read with all their digits. -/
theorem read?_of_point {whole fraction rest : List Char} {exponent : Int}
    (wholeDigits : Text.AsciiDigits whole) (nonempty : whole ≠ [])
    (fractionDigits : Text.AsciiDigits fraction)
    (stop : ∀ c ∈ rest.head?, Text.isDigit c = false)
    (readExponent : readExponent? rest = some exponent) :
    read? (whole ++ '.' :: (fraction ++ rest)) =
      some ⟨false, Text.digitValues (whole ++ fraction), exponent - fraction.length⟩ := by
  have point : ∀ c ∈ ('.' :: (fraction ++ rest)).head?, Text.isDigit c = false :=
    Text.forall_mem_head?_cons (by decide) _
  simp [read?, splitSign_digits wholeDigits nonempty, digitRun_append wholeDigits point,
    dropDigits_append wholeDigits point, splitFraction, digitRun_append fractionDigits stop,
    dropDigits_append fractionDigits stop, nonempty, readExponent]

/-- Digits and an exponent are read with these digits. -/
theorem read?_of_whole {whole rest : List Char} {exponent : Int}
    (wholeDigits : Text.AsciiDigits whole) (nonempty : whole ≠ [])
    (stop : ∀ c ∈ rest.head?, Text.isDigit c = false ∧ c ≠ '.')
    (readExponent : readExponent? rest = some exponent) :
    read? (whole ++ rest) = some ⟨false, Text.digitValues whole, exponent⟩ := by
  have noDigit : ∀ c ∈ rest.head?, Text.isDigit c = false := fun c first => (stop c first).1
  have noFraction : splitFraction rest = ([], rest) := by
    unfold splitFraction
    split
    · next behind => exact absurd rfl (stop '.' rfl).2
    · rfl
  simp [read?, splitSign_digits wholeDigits nonempty, digitRun_append wholeDigits noDigit,
    dropDigits_append wholeDigits noDigit, noFraction, nonempty, readExponent]

end Decimal

namespace Binary64

/-- The digits of an exponent mark. -/
def exponentDigits (exponent : Int) : List Char :=
  let digits := Nat.toDigits 10 exponent.natAbs
  List.replicate (2 - digits.length) '0' ++ digits

theorem asciiDigits_exponentDigits (exponent : Int) :
    Text.AsciiDigits (exponentDigits exponent) :=
  (Text.asciiDigits_zeros _).append (Text.asciiDigits_toDigits _)

theorem exponentMark_eq (exponent : Int) :
    exponentMark exponent =
      'e' :: (if exponent < 0 then '-' else '+') :: exponentDigits exponent := rfl

theorem exponentMark_not_blank (exponent : Int) :
    ∀ c ∈ exponentMark exponent, Text.isBlank c = false := by
  intro c member
  rw [exponentMark_eq] at member
  rcases List.mem_cons.mp member with rfl | behind
  · decide
  · rcases List.mem_cons.mp behind with rfl | digit
    · split <;> decide
    · exact (asciiDigits_exponentDigits exponent).not_blank c digit

/-- A written exponent is read back. -/
theorem readExponent?_exponentMark (exponent : Int) :
    Decimal.readExponent? (exponentMark exponent) = some exponent := by
  have nonempty : exponentDigits exponent ≠ [] := fun empty =>
    Nat.toDigits_ne_nil (List.append_eq_nil_iff.mp empty).2
  have split : splitSign ((if exponent < 0 then '-' else '+') :: exponentDigits exponent) =
      (decide (exponent < 0), exponentDigits exponent) := by
    by_cases negative : exponent < 0
    · simp only [negative, if_true, decide_true, splitSign]
    · simp only [negative, if_false, decide_false, splitSign]
  have magnitude : Text.ofDigits 10 (Text.digitValues (exponentDigits exponent)) =
      exponent.natAbs := by
    rw [exponentDigits, Text.digitValues_append, Text.ofDigits_append, Text.digitValues_zeros,
      Text.ofDigits_zeros, Nat.zero_mul, Nat.zero_add, digitValues_toDigits]
  have letter : ('e' == 'e' || 'e' == 'E') = true := by decide
  rw [exponentMark_eq, Decimal.readExponent?, if_pos letter,
    IntegerText.read?_of_splitSign split nonempty (asciiDigits_exponentDigits exponent),
    Option.map_some, IntegerText.toInt, magnitude, withSign_natAbs]

/-! ## Layouts -/

namespace Layout

/-- The number that a layout stands for. -/
def value (layout : Layout) : ℚ :=
  (Text.ofDigits 10 (Text.digitValues layout.digits) : ℚ) *
    10 ^ (layout.point - layout.digits.length)

/-- The digits of a layout between zeros, with a point behind as many of them as the layout says,
denote the number of the layout. -/
theorem value_of_padded {layout : Layout} {whole fraction : List Char} (front back : Nat)
    (padded : whole ++ fraction =
      List.replicate front '0' ++ (layout.digits ++ List.replicate back '0'))
    (place : layout.point + front = whole.length) :
    (Text.ofDigits 10 (Text.digitValues (whole ++ fraction)) : ℚ) *
      10 ^ (0 - (fraction.length : Int)) = layout.value := by
  have length : whole.length + fraction.length = front + (layout.digits.length + back) := by
    simpa using congrArg List.length padded
  have exponent : layout.point - layout.digits.length = back + (0 - (fraction.length : Int)) := by
    omega
  rw [padded, Text.digitValues_append, Text.digitValues_append, Text.digitValues_zeros,
    Text.digitValues_zeros, Text.ofDigits_append, Text.ofDigits_append, Text.ofDigits_zeros,
    Text.ofDigits_zeros, List.length_replicate, value, exponent,
    zpow_add₀ (by norm_num), zpow_natCast]
  push_cast
  ring

/-- A layout that is written with a point has a digit in front of it. -/
theorem positional_eq {layout : Layout} (ascii : Text.AsciiDigits layout.digits) :
    ∃ whole fraction, layout.positional = whole ++ '.' :: fraction ∧ whole ≠ [] ∧
      Text.AsciiDigits whole ∧ Text.AsciiDigits fraction ∧
      (Text.ofDigits 10 (Text.digitValues (whole ++ fraction)) : ℚ) *
        10 ^ (0 - (fraction.length : Int)) = layout.value := by
  have zero : Text.AsciiDigits ['0'] := Text.asciiDigits_zeros 1
  obtain ⟨digits, point⟩ := layout
  cases point with
  | ofNat point =>
    cases point with
    | zero =>
      refine ⟨['0'], digits, rfl, by simp, zero, ascii, ?_⟩
      exact value_of_padded 1 0 (by simp) rfl
    | succ point =>
      have padding := ascii.append (Text.asciiDigits_zeros (point + 1 + 1 - digits.length))
      have long : point + 1 < (digits ++
          List.replicate (point + 1 + 1 - digits.length) '0').length := by
        rw [List.length_append, List.length_replicate]
        omega
      refine ⟨_, _, rfl, ?_, padding.mono (List.take_subset _ _),
        padding.mono (List.drop_subset _ _), ?_⟩
      · intro empty
        rw [List.take_eq_nil_iff] at empty
        rcases empty with none | short
        · exact absurd none (by simp)
        · rw [short] at long
          exact absurd long (by simp)
      · refine value_of_padded 0 _ (List.take_append_drop _ _) ?_
        rw [List.length_take_of_le long.le]
        rfl
  | negSucc below =>
    refine ⟨['0'], List.replicate (below + 1) '0' ++ digits, rfl, by simp, zero,
      (Text.asciiDigits_zeros _).append ascii, ?_⟩
    refine value_of_padded (below + 1 + 1) 0 (by simp [List.replicate_succ]) ?_
    simp only [Int.negSucc_eq, List.length_singleton]
    omega

/-- A layout that is written with an exponent has a mantissa of its digits and at most a point. -/
theorem scientific_eq (layout : Layout) :
    ∃ mantissa, layout.scientific = mantissa ++ exponentMark (layout.point - 1) ∧
      (∀ c ∈ mantissa, c ∈ layout.digits ∨ c = '.') ∧ mantissa.head? = layout.digits.head? := by
  obtain ⟨digits, point⟩ := layout
  cases digits with
  | nil => exact ⟨[], rfl, by simp, rfl⟩
  | cons first digits =>
    cases digits with
    | nil => exact ⟨[first], rfl, by simp, rfl⟩
    | cons second digits =>
      refine ⟨first :: '.' :: second :: digits, rfl, fun c member => ?_, rfl⟩
      rcases List.mem_cons.mp member with rfl | behind
      · exact .inl List.mem_cons_self
      · rcases List.mem_cons.mp behind with rfl | digit
        · exact .inr rfl
        · exact .inl (List.mem_cons_of_mem first digit)

/-! ## The characters of a layout -/

theorem chars_not_blank {layout : Layout} (ascii : Text.AsciiDigits layout.digits) :
    ∀ c ∈ layout.chars, Text.isBlank c = false := by
  unfold chars
  intro c member
  split at member
  · obtain ⟨whole, fraction, shape, -, wholeDigits, fractionDigits, -⟩ := positional_eq ascii
    rw [shape] at member
    rcases List.mem_append.mp member with front | back
    · exact wholeDigits.not_blank c front
    · rcases List.mem_cons.mp back with rfl | digit
      · decide
      · exact fractionDigits.not_blank c digit
  · obtain ⟨mantissa, shape, inside, -⟩ := scientific_eq layout
    rw [shape] at member
    rcases List.mem_append.mp member with front | mark
    · rcases inside c front with digit | rfl
      · exact ascii.not_blank c digit
      · decide
    · exact exponentMark_not_blank _ c mark

/-- A layout is not written like an integer. -/
theorem exists_mem_chars {layout : Layout} (ascii : Text.AsciiDigits layout.digits) :
    ∃ c ∈ layout.chars, Text.isDigit c = false ∧ c ≠ '+' ∧ c ≠ '-' := by
  unfold chars
  split
  · obtain ⟨whole, fraction, shape, -⟩ := positional_eq ascii
    exact ⟨'.', by rw [shape]; simp, by decide, by decide, by decide⟩
  · obtain ⟨mantissa, shape, -⟩ := scientific_eq layout
    exact ⟨'e', by rw [shape, exponentMark_eq]; simp, by decide, by decide, by decide⟩

/-- A layout is written without a sign at its front. -/
theorem chars_head_not_sign {layout : Layout} (ascii : Text.AsciiDigits layout.digits) :
    ∀ c ∈ layout.chars.head?, c ≠ '+' ∧ c ≠ '-' := by
  unfold chars
  intro c first
  split at first
  · obtain ⟨whole, fraction, shape, hasWhole, wholeDigits, -⟩ := positional_eq ascii
    rw [shape, List.head?_append_of_ne_nil _ hasWhole] at first
    exact wholeDigits.head_not_sign c first
  · obtain ⟨mantissa, shape, -, head⟩ := scientific_eq layout
    rw [shape, List.head?_append, head, exponentMark_eq, List.head?_cons] at first
    cases digit : layout.digits.head? with
    | none =>
      rw [digit] at first
      obtain rfl : 'e' = c := by simpa using first
      decide
    | some d =>
      rw [digit] at first
      obtain rfl : d = c := by simpa using first
      exact ascii.head_not_sign d digit

/-! ## Reading the characters -/

/-- **A layout is read as a decimal fraction that denotes its number.** -/
theorem read?_chars {layout : Layout} (ascii : Text.AsciiDigits layout.digits)
    (nonempty : layout.digits ≠ []) :
    ∃ number, Decimal.read? layout.chars = some number ∧ number.negative = false ∧
      (∀ d ∈ number.digits, d < 10) ∧ number.value = layout.value := by
  unfold chars
  split
  · obtain ⟨whole, fraction, shape, hasWhole, wholeDigits, fractionDigits, value⟩ :=
      positional_eq ascii
    have read : Decimal.read? (whole ++ '.' :: (fraction ++ [])) = _ :=
      Decimal.read?_of_point wholeDigits hasWhole fractionDigits (by simp) rfl
    rw [List.append_nil] at read
    rw [shape]
    exact ⟨_, read, rfl, Text.digitValues_lt _, value⟩
  · have mark : ∀ c ∈ (exponentMark (layout.point - 1)).head?,
        Text.isDigit c = false ∧ c ≠ '.' := by
      rw [exponentMark_eq]
      exact Text.forall_mem_head?_cons (by decide) _
    have readMark := readExponent?_exponentMark (layout.point - 1)
    obtain ⟨digits, point⟩ := layout
    unfold scientific value Decimal.value
    cases digits with
    | nil => exact absurd rfl nonempty
    | cons first digits =>
      have one : Text.AsciiDigits [first] := ascii.mono (by simp)
      cases digits with
      | nil =>
        exact ⟨_, Decimal.read?_of_whole one (by simp) mark readMark, rfl,
          Text.digitValues_lt _, rfl⟩
      | cons second digits =>
        have fraction : Text.AsciiDigits (second :: digits) := ascii.mono (by simp)
        have read := Decimal.read?_of_point one (by simp) fraction
          (fun c member => (mark c member).1) readMark
        refine ⟨_, read, rfl, Text.digitValues_lt _, ?_⟩
        have exponent : point - 1 - ((second :: digits).length : Int) =
            point - ((first :: second :: digits).length : Int) := by
          simp only [List.length_cons]
          omega
        rw [← exponent]
        rfl

end Layout

end Binary64

end FieldRules
