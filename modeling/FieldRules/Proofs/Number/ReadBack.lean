import FieldRules.Proofs.Number.LayoutReading
import Mathlib.Algebra.Order.Field.Rat
import Mathlib.Tactic.NormNum

/-!
# Floating-point numbers are read back

The notation of a finite number reads back as the number.  A notation from a
decimal grid was tried with the reader before it was taken.  What is left is the
exact expansion, which denotes a whole count of units, and a fraction that
denotes a whole count of units is rounded to the magnitude of that count
(`ofDecimal_of_value`).
-/

set_option autoImplicit false

namespace FieldRules

namespace Binary64

/-! ## Whole counts of units -/

theorem roundQuotient_mul (quotient : Nat) {denominator : Nat} (positive : 0 < denominator) :
    roundQuotient (quotient * denominator) denominator = quotient := by
  simp [roundQuotient, Nat.mul_div_cancel _ positive, positive]

theorem unitsOf_eq (magnitude : Nat) : unitsOf magnitude =
    if magnitude < 2 ^ 52 then magnitude
    else (magnitude % 2 ^ 52 + 2 ^ 52) * 2 ^ (magnitude / 2 ^ 52 - 1) := rfl

theorem log2_unitsOf (magnitude : Nat) :
    Nat.log2 (unitsOf magnitude) - 52 = magnitude / 2 ^ 52 - 1 := by
  rw [unitsOf_eq]
  split
  · next small =>
    by_cases zero : magnitude = 0
    · rw [zero]
      decide
    · have short : magnitude.log2 < 52 := (Nat.log2_lt zero).mpr small
      omega
  · next large =>
    have length : Nat.log2 ((magnitude % 2 ^ 52 + 2 ^ 52) * 2 ^ (magnitude / 2 ^ 52 - 1)) =
        52 + (magnitude / 2 ^ 52 - 1) := by
      have lower : 2 ^ 52 ≤ magnitude % 2 ^ 52 + 2 ^ 52 := by omega
      have upper : magnitude % 2 ^ 52 + 2 ^ 52 < 2 ^ 53 := by omega
      have power : 0 < 2 ^ (magnitude / 2 ^ 52 - 1) := Nat.two_pow_pos _
      rw [Nat.log2_eq_iff (Nat.mul_pos (by omega) power).ne']
      constructor
      · rw [Nat.pow_add]
        exact Nat.mul_le_mul_right _ lower
      · rw [Nat.add_right_comm, Nat.pow_add]
        exact Nat.mul_lt_mul_of_pos_right upper power
    omega

/-- A whole count of units is the size of the magnitude that is nearest to it. -/
theorem nearestMagnitude_unitsOf (magnitude : Nat) {denominator : Nat}
    (positive : 0 < denominator) :
    nearestMagnitude (unitsOf magnitude * denominator) denominator = magnitude := by
  unfold nearestMagnitude
  simp only [Nat.pow_eq]
  rw [Nat.mul_div_cancel _ positive, log2_unitsOf]
  rw [unitsOf_eq]
  split
  · next small =>
    have block : magnitude / 2 ^ 52 - 1 = 0 := by omega
    simp only [block, Nat.zero_mul, Nat.zero_add, Nat.pow_zero, Nat.mul_one]
    exact roundQuotient_mul _ positive
  · next large =>
    have scale : 0 < denominator * 2 ^ (magnitude / 2 ^ 52 - 1) :=
      Nat.mul_pos positive (Nat.two_pow_pos _)
    rw [Nat.mul_assoc, Nat.mul_comm _ denominator]
    rw [roundQuotient_mul _ scale]
    omega

theorem ofUnits_unitsOf (negative : Bool) (magnitude : Fin magnitudeCount) {denominator : Nat}
    (positive : 0 < denominator) :
    ofUnits negative (unitsOf magnitude * denominator) denominator =
      .finite negative magnitude := by
  have nearest := nearestMagnitude_unitsOf magnitude.val positive
  simp only [ofUnits, nearest, magnitude.isLt, dite_true]

/-! ## The range of the magnitudes -/

theorem unitsOf_pos {magnitude : Nat} (positive : 0 < magnitude) : 0 < unitsOf magnitude := by
  rw [unitsOf_eq]
  split
  · exact positive
  · exact Nat.mul_pos (by omega) (Nat.two_pow_pos _)

theorem unitsOf_lt_of_block {magnitude last : Nat} (block : magnitude / 2 ^ 52 - 1 ≤ last) :
    unitsOf magnitude < 2 ^ 53 * 2 ^ last := by
  rw [unitsOf_eq]
  split
  · next small =>
    calc magnitude < 2 ^ 53 := by omega
      _ ≤ 2 ^ 53 * 2 ^ last := Nat.le_mul_of_pos_right _ (Nat.two_pow_pos _)
  · have upper : magnitude % 2 ^ 52 + 2 ^ 52 < 2 ^ 53 := by omega
    exact Nat.mul_lt_mul_of_lt_of_le upper (Nat.pow_le_pow_right (by decide) block)
      (Nat.two_pow_pos _)

/-- Every finite magnitude is below the power of two behind the last block. -/
theorem unitsOf_lt (magnitude : Fin magnitudeCount) : unitsOf magnitude < 2 ^ 53 * 2 ^ 2045 := by
  have bound : magnitude.val < 2047 * 2 ^ 52 := magnitude.isLt
  exact unitsOf_lt_of_block (by omega)

/-! ## Fractions that denote a whole count of units -/

theorem one_pos : 0 < one := by decide +kernel

theorem one_le : one ≤ 10 ^ 330 := by decide +kernel

theorem bound_le : 2 ^ 53 * 2 ^ 2045 ≤ 10 ^ 309 * one := by decide +kernel

/-- The first digit of a number that is not zero stands within the range of the magnitudes. -/
theorem place_bounds {number : Decimal} {d : Nat} {digits : List Nat} {magnitude : Nat}
    (significant : number.significant = d :: digits) (nonzero : d ≠ 0)
    (small : ∀ e ∈ number.significant, e < 10) (positive : 0 < unitsOf magnitude)
    (bounded : unitsOf magnitude < 2 ^ 53 * 2 ^ 2045)
    (value : number.value = (unitsOf magnitude : ℚ) / one) :
    -330 ≤ number.significant.length + number.exponent ∧
      number.significant.length + number.exponent ≤ 310 := by
  have denoted : number.value = (Text.ofDigits 10 (d :: digits) : ℚ) * 10 ^ number.exponent := by
    rw [Decimal.value, ← Text.ofDigits_dropWhile_zero]
    exact congrArg (fun s => (Text.ofDigits 10 s : ℚ) * 10 ^ number.exponent) significant
  have scale : (0 : ℚ) < 10 ^ number.exponent := zpow_pos (by norm_num) _
  have onePos : (0 : ℚ) < one := by exact_mod_cast one_pos
  have ten : (1 : ℚ) < 10 := by norm_num
  rw [significant] at small ⊢
  constructor
  · -- The number is at least one unit and less than the power of its place.
    have above : (Text.ofDigits 10 (d :: digits) : ℚ) < 10 ^ (d :: digits).length := by
      exact_mod_cast Text.ofDigits_lt small
    have least : (10 : ℚ) ^ (-330 : Int) ≤ 1 / one := by
      rw [zpow_neg, one_div]
      exact inv_anti₀ onePos (by exact_mod_cast one_le)
    have unit : (1 : ℚ) / one ≤ unitsOf magnitude / one :=
      (div_le_div_iff_of_pos_right onePos).mpr (by exact_mod_cast positive)
    have less : (10 : ℚ) ^ (-330 : Int) < 10 ^ ((d :: digits).length + number.exponent) := by
      rw [zpow_add₀ (by norm_num), zpow_natCast]
      calc (10 : ℚ) ^ (-330 : Int) ≤ number.value := by rw [value]; exact least.trans unit
        _ < 10 ^ (d :: digits).length * 10 ^ number.exponent := by
            rw [denoted]
            exact mul_lt_mul_of_pos_right above scale
    exact ((zpow_lt_zpow_iff_right₀ ten).mp less).le
  · -- The number is at least the power of the place before and less than the bound.
    have below : (10 : ℚ) ^ digits.length ≤ Text.ofDigits 10 (d :: digits) := by
      exact_mod_cast Text.le_ofDigits 10 d digits nonzero
    have most : (unitsOf magnitude : ℚ) / one < 10 ^ (309 : Int) := by
      rw [div_lt_iff₀ onePos]
      exact_mod_cast bounded.trans_le bound_le
    have less : (10 : ℚ) ^ (digits.length + number.exponent) < 10 ^ (309 : Int) := by
      rw [zpow_add₀ (by norm_num), zpow_natCast]
      calc (10 : ℚ) ^ digits.length * 10 ^ number.exponent ≤ number.value := by
            rw [denoted]
            exact mul_le_mul_of_nonneg_right below scale.le
        _ < 10 ^ (309 : Int) := by rw [value]; exact most
    have place := (zpow_lt_zpow_iff_right₀ ten).mp less
    simp only [List.length_cons]
    omega

/-- A decimal fraction that denotes a whole count of units is read as the magnitude of that
count. -/
theorem ofDecimal_of_value {number : Decimal} {magnitude : Fin magnitudeCount}
    (small : ∀ d ∈ number.digits, d < 10) (positive : 0 < magnitude.val)
    (value : number.value = (unitsOf magnitude : ℚ) / one) :
    ofDecimal number = .finite number.negative magnitude := by
  have hasUnits := unitsOf_pos positive
  have onePos : (0 : ℚ) < one := by exact_mod_cast one_pos
  have total : Text.ofDigits 10 number.significant = Text.ofDigits 10 number.digits :=
    Text.ofDigits_dropWhile_zero 10 number.digits
  cases significant : number.significant with
  | nil =>
    -- Without a digit that counts the fraction denotes zero.
    have zero : number.value = 0 := by
      rw [Decimal.value, ← total, significant]
      simp [Text.ofDigits]
    have units : (0 : ℚ) < (unitsOf magnitude : ℚ) / one :=
      div_pos (by exact_mod_cast hasUnits) onePos
    rw [← value, zero] at units
    exact absurd units (lt_irrefl 0)
  | cons d digits =>
    have nonzero : d ≠ 0 := by
      have head := List.head?_dropWhile_not (· == 0) number.digits
      rw [show number.digits.dropWhile (· == 0) = d :: digits from significant] at head
      simpa using head
    have smallSignificant : ∀ e ∈ number.significant, e < 10 := fun e member =>
      small e ((List.dropWhile_sublist _).subset member)
    obtain ⟨low, high⟩ := place_bounds significant nonzero smallSignificant hasUnits
      (unitsOf_lt magnitude) value
    have inside : (number.significant.isEmpty ||
        decide (number.significant.length + number.exponent < -330)) = false := by
      rw [significant] at low ⊢
      simpa using low
    rw [Decimal.value, ← total] at value
    unfold ofDecimal
    simp only [inside, Bool.false_eq_true, if_false, Int.not_lt.mpr high, Nat.pow_eq]
    cases exponent : number.exponent with
    | ofNat power =>
      have whole : Text.ofDigits 10 number.significant * one * 10 ^ power =
          unitsOf magnitude * 1 := by
        rw [exponent, Int.ofNat_eq_natCast, zpow_natCast, eq_div_iff onePos.ne'] at value
        have scaled : (Text.ofDigits 10 number.significant : ℚ) * one * 10 ^ power =
            unitsOf magnitude * 1 := by
          rw [← value]
          ring
        exact_mod_cast scaled
      simp only [whole]
      exact ofUnits_unitsOf number.negative magnitude Nat.one_pos
    | negSucc below =>
      have whole : Text.ofDigits 10 number.significant * one =
          unitsOf magnitude * 10 ^ (below + 1) := by
        have power : (10 : ℚ) ^ (below + 1) ≠ 0 := by positivity
        rw [exponent, zpow_negSucc, ← div_eq_mul_inv, div_eq_div_iff power onePos.ne'] at value
        exact_mod_cast value
      simp only [whole]
      exact ofUnits_unitsOf number.negative magnitude (Nat.pow_pos (by decide))

/-! ## Layouts of grid points -/

/-- The layout of a grid point drops zeros at the end only. -/
theorem Layout.of_padded (digits : Nat) (exponent : Int) :
    ∃ zeros, Nat.toDigits 10 digits =
        (Layout.of digits exponent).digits ++ List.replicate zeros '0' ∧
      (Layout.of digits exponent).point =
        (Layout.of digits exponent).digits.length + (zeros + exponent) := by
  let dropped := (Nat.toDigits 10 digits).reverse.takeWhile (· == '0')
  have zeros : dropped = List.replicate dropped.length '0' := by
    apply List.eq_replicate_of_mem
    intro c member
    simpa using List.all_eq_true.mp List.all_takeWhile c member
  have padded : Nat.toDigits 10 digits =
      (Layout.of digits exponent).digits ++ List.replicate dropped.length '0' := by
    have split : (Nat.toDigits 10 digits).reverse =
        dropped ++ (Nat.toDigits 10 digits).reverse.dropWhile (· == '0') :=
      List.takeWhile_append_dropWhile.symm
    rw [zeros] at split
    simpa [Layout.of] using congrArg List.reverse split
  refine ⟨dropped.length, padded, ?_⟩
  have length := congrArg List.length padded
  rw [List.length_append, List.length_replicate] at length
  have point : (Layout.of digits exponent).point = (Nat.toDigits 10 digits).length + exponent := rfl
  rw [point, length]
  omega

theorem Layout.of_ascii (digits : Nat) (exponent : Int) :
    Text.AsciiDigits (Layout.of digits exponent).digits := by
  obtain ⟨zeros, padded, -⟩ := Layout.of_padded digits exponent
  exact (Text.asciiDigits_toDigits digits).mono (by rw [padded]; exact List.subset_append_left _ _)

theorem Layout.of_value (digits : Nat) (exponent : Int) :
    (Layout.of digits exponent).value = (digits : ℚ) * 10 ^ exponent := by
  obtain ⟨zeros, padded, point⟩ := Layout.of_padded digits exponent
  have total := digitValues_toDigits digits
  rw [padded, Text.digitValues_append, Text.ofDigits_append, Text.digitValues_zeros,
    Text.ofDigits_zeros, List.length_replicate, Nat.add_zero] at total
  have cast : (digits : ℚ) =
      Text.ofDigits 10 (Text.digitValues (Layout.of digits exponent).digits) * 10 ^ zeros := by
    exact_mod_cast total.symm
  rw [Layout.value, point, cast, add_sub_cancel_left, zpow_add₀ (by norm_num), zpow_natCast]
  ring

theorem Layout.of_ne_nil {digits : Nat} (positive : 0 < digits) (exponent : Int) :
    (Layout.of digits exponent).digits ≠ [] := by
  intro empty
  obtain ⟨zeros, padded, -⟩ := Layout.of_padded digits exponent
  have total := digitValues_toDigits digits
  rw [padded, empty, List.nil_append, Text.digitValues_zeros, Text.ofDigits_zeros] at total
  exact absurd total positive.ne

/-! ## The notation of a number -/

/-- A number halved as often as the places say has that many decimal places. -/
theorem Layout.of_halves (units places : Nat) :
    (Layout.of (units * Nat.pow 5 places) (-places)).value = (units : ℚ) / Nat.pow 2 places := by
  have ten : (10 : ℚ) ^ places = 5 ^ places * 2 ^ places := by
    rw [← mul_pow]
    norm_num
  rw [Layout.of_value, zpow_neg, zpow_natCast, ten]
  simp only [Nat.pow_eq]
  push_cast
  field_simp

/-- The digits of the exact expansion denote the count of units. -/
theorem expansion_value (units : Nat) : (expansion units).value = (units : ℚ) / one :=
  Layout.of_halves units 1074

theorem expansion_ascii (units : Nat) : Text.AsciiDigits (expansion units).digits := by
  rw [expansion]
  exact Layout.of_ascii _ _

theorem expansion_ne_nil {units : Nat} (positive : 0 < units) : (expansion units).digits ≠ [] := by
  have scaled : 0 < units * Nat.pow 5 1074 := Nat.mul_pos positive (by decide +kernel)
  exact Layout.of_ne_nil scaled _

theorem ofText?_expansion {magnitude : Fin magnitudeCount} (positive : 0 < magnitude.val) :
    ofText? (expansion (unitsOf magnitude)).chars = some (.finite false magnitude) := by
  obtain ⟨number, read, positiveSign, small, value⟩ :=
    Layout.read?_chars (expansion_ascii _) (expansion_ne_nil (unitsOf_pos positive))
  rw [expansion_value] at value
  rw [ofText?, read, Option.map_some, ofDecimal_of_value small positive value, positiveSign]

theorem ascii_of_mem_neighbours {units : Nat} {exponent : Int} {layout : Layout}
    (member : layout ∈ neighbours units exponent) : Text.AsciiDigits layout.digits := by
  have grid : ∃ digits, layout = Layout.of digits exponent := by
    cases exponent with
    | ofNat power =>
      simp only [neighbours] at member
      split at member <;> rcases List.mem_pair.mp member with same | same <;> exact ⟨_, same⟩
    | negSucc below =>
      simp only [neighbours] at member
      split at member <;> rcases List.mem_pair.mp member with same | same <;> exact ⟨_, same⟩
  obtain ⟨digits, rfl⟩ := grid
  exact Layout.of_ascii digits exponent

/-- The shortest notation is the notation of a layout that reads back as the magnitude. -/
theorem exists_shortest {magnitude : Fin magnitudeCount} (positive : 0 < magnitude.val) :
    ∃ layout : Layout, shortest magnitude = layout.chars ∧ Text.AsciiDigits layout.digits ∧
      ofText? layout.chars = some (.finite false magnitude) := by
  let units := unitsOf magnitude
  let readsBack (layout : Layout) : Bool :=
    ofText? layout.chars == some (.finite false magnitude)
  let onGrid (places : Nat) : Option Layout :=
    (neighbours units (pointOf units - (places + 1))).find? readsBack
  have chosen : shortest magnitude =
      (((List.range 17).findSome? onGrid).getD (expansion units)).chars := rfl
  cases found : (List.range 17).findSome? onGrid with
  | none =>
    rw [found] at chosen
    exact ⟨expansion units, chosen, expansion_ascii units, ofText?_expansion positive⟩
  | some layout =>
    rw [found] at chosen
    obtain ⟨places, -, accepted⟩ := List.exists_of_findSome?_eq_some found
    have reads : readsBack layout = true := List.find?_some accepted
    refine ⟨layout, chosen, ?_, by simpa [readsBack] using reads⟩
    exact ascii_of_mem_neighbours (List.mem_of_find?_eq_some accepted)

/-! ## Signs -/

theorem ofUnits_minus (numerator denominator : Nat) :
    ofUnits true numerator denominator = (ofUnits false numerator denominator).negate := by
  unfold ofUnits
  dsimp only
  split <;> rfl

/-- What is done with a fraction once its size is known does not look at its sign. -/
theorem ite_ofUnits_minus (small large : Prop) [Decidable small] [Decidable large]
    (numerator denominator : Nat) :
    (if small then zero true
      else if large then .infinite true else ofUnits true numerator denominator) =
      (if small then zero false
        else if large then .infinite false else ofUnits false numerator denominator).negate := by
  split
  · rfl
  · split
    · rfl
    · exact ofUnits_minus numerator denominator

theorem ofDecimal_minus (digits : List Nat) (exponent : Int) :
    ofDecimal ⟨true, digits, exponent⟩ = (ofDecimal ⟨false, digits, exponent⟩).negate := by
  cases exponent with
  | ofNat power => exact ite_ofUnits_minus _ _ _ _
  | negSucc below => exact ite_ofUnits_minus _ _ _ _

/-- A minus in front of a notation without a sign changes the sign of what is read. -/
theorem ofText?_minus {s : List Char} (unsigned : ∀ c ∈ s.head?, c ≠ '+' ∧ c ≠ '-') :
    ofText? ('-' :: s) = (ofText? s).map negate := by
  have minus : splitSign ('-' :: s) = (true, s) := rfl
  unfold ofText? Decimal.read?
  rw [minus, splitSign_of_not_sign unsigned]
  dsimp only
  split
  · rfl
  · cases Decimal.readExponent? (Decimal.splitFraction (s.dropWhile Text.isDigit)).2 with
    | none => rfl
    | some exponent => exact congrArg some (ofDecimal_minus _ _)

/-! ## The notation of a finite number -/

/-- What is written of a magnitude: digits with a point or an exponent and no sign. -/
structure IsNotation (s : List Char) (magnitude : Fin magnitudeCount) : Prop where
  not_blank : ∀ c ∈ s, Text.isBlank c = false
  unlike_integer : ∃ c ∈ s, Text.isDigit c = false ∧ c ≠ '+' ∧ c ≠ '-'
  unsigned : ∀ c ∈ s.head?, c ≠ '+' ∧ c ≠ '-'
  reads_back : ofText? s = some (.finite false magnitude)

/-- The layout of zero, which has no shortest digits. -/
def zeroLayout : Layout := ⟨['0'], 1⟩

theorem ofText?_zeroLayout : ofText? zeroLayout.chars = some (zero false) := by decide +kernel

theorem exists_notation (magnitude : Fin magnitudeCount) :
    ∃ s, IsNotation s magnitude ∧ chars (.finite false magnitude) = s ∧
      chars (.finite true magnitude) = '-' :: s := by
  by_cases positive : 0 < magnitude.val
  · obtain ⟨layout, shape, ascii, reads⟩ := exists_shortest positive
    have nonzero : (magnitude.val == 0) = false := by simpa using positive.ne'
    refine ⟨layout.chars, ⟨Layout.chars_not_blank ascii, Layout.exists_mem_chars ascii,
      Layout.chars_head_not_sign ascii, reads⟩, ?_, ?_⟩
    · simp [chars, nonzero, shape]
    · simp [chars, nonzero, shape]
  · obtain ⟨value, bounded⟩ := magnitude
    obtain rfl : value = 0 := by simpa using positive
    have ascii : Text.AsciiDigits zeroLayout.digits := Text.asciiDigits_zeros 1
    exact ⟨zeroLayout.chars, ⟨Layout.chars_not_blank ascii, Layout.exists_mem_chars ascii,
      Layout.chars_head_not_sign ascii, ofText?_zeroLayout⟩, rfl, rfl⟩

/-- **A finite number is read back from its notation.** -/
theorem ofText?_chars {number : Binary64} (finite : number.isFinite = true) :
    ofText? number.chars = some number := by
  cases number with
  | finite negative magnitude =>
    obtain ⟨s, isNotation, plain, minus⟩ := exists_notation magnitude
    cases negative with
    | false => rw [plain, isNotation.reads_back]
    | true =>
      rw [minus, ofText?_minus isNotation.unsigned, isNotation.reads_back]
      rfl
  | infinite negative => exact absurd finite (by simp [isFinite])
  | nan => exact absurd finite (by simp [isFinite])

/-- The notation of a finite number holds no blank. -/
theorem chars_not_blank {number : Binary64} (finite : number.isFinite = true) :
    ∀ c ∈ number.chars, Text.isBlank c = false := by
  cases number with
  | finite negative magnitude =>
    obtain ⟨s, isNotation, plain, minus⟩ := exists_notation magnitude
    cases negative with
    | false => rw [plain]; exact isNotation.not_blank
    | true =>
      rw [minus]
      intro c member
      rcases List.mem_cons.mp member with rfl | behind
      · decide
      · exact isNotation.not_blank c behind
  | infinite negative => exact absurd finite (by simp [isFinite])
  | nan => exact absurd finite (by simp [isFinite])

/-- The notation of a finite number is not read as an integer. -/
theorem read?_chars_eq_none {number : Binary64} (finite : number.isFinite = true) :
    IntegerText.read? number.chars = none := by
  cases number with
  | finite negative magnitude =>
    obtain ⟨s, isNotation, plain, minus⟩ := exists_notation magnitude
    obtain ⟨c, member, noDigit, noSign⟩ := isNotation.unlike_integer
    cases negative with
    | false => exact IntegerText.read?_eq_none (by rw [plain]; exact member) noDigit noSign
    | true =>
      refine IntegerText.read?_eq_none ?_ noDigit noSign
      rw [minus]
      exact List.mem_cons_of_mem _ member
  | infinite negative => exact absurd finite (by simp [isFinite])
  | nan => exact absurd finite (by simp [isFinite])

end Binary64

end FieldRules
