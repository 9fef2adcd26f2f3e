import FieldRules.Proofs.Text.Trimming
import FieldRules.Number.Integer
import Mathlib.Algebra.Group.Nat.Defs

/-!
# Digits and written integers

The writer of numbers uses the ten digits of ASCII only, while the reader takes
the decimal digits of every script.  What is needed of the written digits is
that the reader knows them as digits and that they are no blanks.

The number that a list of digit values denotes is counted from its front here
(`ofDigits_cons`), which makes it additive over `++` and bounds it by its
length.

An integer that is within the limit of a conversion is read back from its
notation (`convert_integerChars`).
-/

set_option autoImplicit false

namespace FieldRules

namespace Text

/-! ## Digits of ASCII -/

/-- A text of ASCII digits. -/
def AsciiDigits (s : List Char) : Prop := ∀ c ∈ s, ∃ d < 10, c = Nat.digitChar d

theorem AsciiDigits.append {s t : List Char} (left : AsciiDigits s) (right : AsciiDigits t) :
    AsciiDigits (s ++ t) := by
  intro c member
  rcases List.mem_append.mp member with inside | inside
  · exact left c inside
  · exact right c inside

theorem AsciiDigits.mono {s t : List Char} (digits : AsciiDigits t) (sub : s ⊆ t) :
    AsciiDigits s :=
  fun c member => digits c (sub member)

theorem asciiDigits_zeros (count : Nat) : AsciiDigits (List.replicate count '0') := by
  intro c member
  exact ⟨0, by decide, List.eq_of_mem_replicate member⟩

theorem asciiDigits_toDigits (number : Nat) : AsciiDigits (Nat.toDigits 10 number) := by
  induction number using Nat.strongRecOn with
  | ind number ih =>
    rw [Nat.toDigits_eq_if (by decide)]
    split
    · next small =>
      intro c member
      exact ⟨number, small, List.mem_singleton.mp member⟩
    · next large =>
      refine (ih (number / 10) (by omega)).append fun c member => ?_
      exact ⟨number % 10, Nat.mod_lt _ (by decide), List.mem_singleton.mp member⟩

theorem digitValue?_digitChar {d : Nat} (small : d < 10) :
    digitValue? d.digitChar = some d := by
  have all : ∀ d : Fin 10, digitValue? d.val.digitChar = some d.val := by decide
  exact all ⟨d, small⟩

theorem AsciiDigits.isDigit {s : List Char} (digits : AsciiDigits s) :
    ∀ c ∈ s, isDigit c = true := by
  intro c member
  obtain ⟨d, small, rfl⟩ := digits c member
  rw [Text.isDigit, digitValue?_digitChar small]
  rfl

theorem AsciiDigits.not_blank {s : List Char} (digits : AsciiDigits s) :
    ∀ c ∈ s, isBlank c = false := by
  intro c member
  obtain ⟨d, small, rfl⟩ := digits c member
  have all : ∀ d : Fin 10, isBlank d.val.digitChar = false := by decide
  exact all ⟨d, small⟩

/-! ## Digit values -/

theorem digitValues_append (s t : List Char) :
    digitValues (s ++ t) = digitValues s ++ digitValues t := by
  simp [digitValues]

theorem digitValues_zeros (count : Nat) :
    digitValues (List.replicate count '0') = List.replicate count 0 := by
  induction count with
  | zero => rfl
  | succ count ih =>
    have zero : digitValue? '0' = some 0 := by decide
    rw [List.replicate_succ, List.replicate_succ, ← ih, digitValues, List.filterMap_cons, zero]
    rfl

theorem length_digitValues {s : List Char} (digits : ∀ c ∈ s, isDigit c = true) :
    (digitValues s).length = s.length := by
  induction s with
  | nil => rfl
  | cons c s ih =>
    obtain ⟨d, value⟩ := Option.isSome_iff_exists.mp (digits c List.mem_cons_self)
    have behind := ih fun e member => digits e (List.mem_cons_of_mem c member)
    simp only [digitValues, List.filterMap_cons, value, List.length_cons] at behind ⊢
    rw [behind]

theorem AsciiDigits.length_digitValues {s : List Char} (digits : AsciiDigits s) :
    (digitValues s).length = s.length :=
  Text.length_digitValues digits.isDigit

theorem digitValues_lt (s : List Char) : ∀ d ∈ digitValues s, d < 10 := by
  intro d member
  obtain ⟨c, -, found⟩ := List.mem_filterMap.mp member
  exact digitValue?_lt found

/-- A list of digits counts its first digit at the place of its length. -/
theorem ofDigits_cons (base d : Nat) (digits : List Nat) :
    ofDigits base (d :: digits) = d * base ^ digits.length + ofDigits base digits := by
  have start (total : Nat) : digits.foldl (fun total digit => total * base + digit) total =
      total * base ^ digits.length + ofDigits base digits := by
    induction digits generalizing total with
    | nil => simp [ofDigits]
    | cons e digits ih =>
      rw [ofDigits, List.foldl_cons, List.foldl_cons, ih, ih (0 * base + e), List.length_cons,
        Nat.pow_succ, Nat.add_mul, Nat.zero_mul, Nat.zero_add, Nat.mul_assoc,
        Nat.mul_comm base]
      omega
  rw [ofDigits, List.foldl_cons, start, Nat.zero_mul, Nat.zero_add]

theorem ofDigits_append (base : Nat) (front back : List Nat) :
    ofDigits base (front ++ back) =
      ofDigits base front * base ^ back.length + ofDigits base back := by
  induction front with
  | nil => simp [ofDigits]
  | cons d front ih =>
    rw [List.cons_append, ofDigits_cons, ofDigits_cons, ih, List.length_append, Nat.pow_add,
      Nat.add_mul, Nat.mul_assoc, Nat.add_assoc]

theorem ofDigits_zeros (base count : Nat) : ofDigits base (List.replicate count 0) = 0 := by
  induction count with
  | zero => rfl
  | succ count ih => rw [List.replicate_succ, ofDigits_cons, ih, Nat.zero_mul]

theorem ofDigits_dropWhile_zero (base : Nat) (digits : List Nat) :
    ofDigits base (digits.dropWhile (· == 0)) = ofDigits base digits := by
  induction digits with
  | nil => rfl
  | cons d digits ih =>
    by_cases zero : d = 0
    · subst zero
      rw [List.dropWhile_cons_of_pos rfl, ih, ofDigits_cons, Nat.zero_mul, Nat.zero_add]
    · rw [List.dropWhile_cons_of_neg (by simpa using zero)]

/-- A list of digits denotes less than the power of its length. -/
theorem ofDigits_lt {base : Nat} {digits : List Nat} (small : ∀ d ∈ digits, d < base) :
    ofDigits base digits < base ^ digits.length := by
  induction digits with
  | nil => exact Nat.one_pos
  | cons d digits ih =>
    have behind := ih fun e member => small e (List.mem_cons_of_mem d member)
    have first : d + 1 ≤ base := small d List.mem_cons_self
    calc ofDigits base (d :: digits) = d * base ^ digits.length + ofDigits base digits :=
          ofDigits_cons base d digits
      _ < (d + 1) * base ^ digits.length := by rw [Nat.add_mul, Nat.one_mul]; omega
      _ ≤ base * base ^ digits.length := Nat.mul_le_mul_right _ first
      _ = base ^ (digits.length + 1) := by rw [Nat.pow_succ, Nat.mul_comm]

/-- A list of digits that starts with no zero denotes at least the power of its first place. -/
theorem le_ofDigits (base d : Nat) (digits : List Nat) (nonzero : d ≠ 0) :
    base ^ digits.length ≤ ofDigits base (d :: digits) := by
  have first : 1 ≤ d := Nat.pos_of_ne_zero nonzero
  rw [ofDigits_cons]
  exact Nat.le_add_right_of_le (Nat.le_mul_of_pos_left _ first)

end Text

/-! ## Integers -/

theorem splitSign_of_not_sign {s : List Char} (unsigned : ∀ c ∈ s.head?, c ≠ '+' ∧ c ≠ '-') :
    splitSign s = (false, s) := by
  cases s with
  | nil => rfl
  | cons c s =>
    obtain ⟨notPlus, notMinus⟩ := unsigned c rfl
    unfold splitSign
    split
    · next same => exact absurd (List.cons.inj same).1 notPlus
    · next same => exact absurd (List.cons.inj same).1 notMinus
    · rfl

theorem Text.AsciiDigits.not_sign {s : List Char} (digits : Text.AsciiDigits s) :
    ∀ c ∈ s, c ≠ '+' ∧ c ≠ '-' := by
  intro c member
  obtain ⟨d, small, rfl⟩ := digits c member
  have all : ∀ d : Fin 10, d.val.digitChar ≠ '+' ∧ d.val.digitChar ≠ '-' := by decide
  exact all ⟨d, small⟩

theorem Text.AsciiDigits.head_not_sign {s : List Char} (digits : Text.AsciiDigits s) :
    ∀ c ∈ s.head?, c ≠ '+' ∧ c ≠ '-' :=
  fun c first => digits.not_sign c (List.mem_of_mem_head? first)

namespace IntegerText

/-- A sign and one digit or more are read as an integer. -/
theorem read?_of_splitSign {s body : List Char} {negative : Bool}
    (split : splitSign s = (negative, body)) (nonempty : body ≠ [])
    (digits : Text.AsciiDigits body) :
    read? s = some ⟨negative, Text.digitValues body⟩ := by
  have all : body.all Text.isDigit = true := List.all_eq_true.mpr digits.isDigit
  simp [read?, split, nonempty, all]

/-- A text with a character that is neither a digit nor a sign is not read as an integer. -/
theorem read?_eq_none {s : List Char} {c : Char} (member : c ∈ s) (noDigit : Text.isDigit c = false)
    (noSign : c ≠ '+' ∧ c ≠ '-') : read? s = none := by
  have behindSign : c ∈ (splitSign s).2 := by
    unfold splitSign
    split
    · exact (List.mem_cons.mp member).resolve_left noSign.1
    · exact (List.mem_cons.mp member).resolve_left noSign.2
    · exact member
  have notAll : (splitSign s).2.all Text.isDigit = false := by
    rw [List.all_eq_false]
    exact ⟨c, behindSign, by simp [noDigit]⟩
  simp [read?, notAll]

end IntegerText

theorem integerChars_eq (number : Int) :
    integerChars number = (if number < 0 then ['-'] else []) ++ Nat.toDigits 10 number.natAbs := by
  cases number with
  | ofNat magnitude =>
    have positive : ¬ Int.ofNat magnitude < 0 := Int.not_lt.mpr (Int.natCast_nonneg magnitude)
    rw [if_neg positive]
    rfl
  | negSucc below =>
    rw [if_pos (Int.negSucc_lt_zero below)]
    rfl

/-- A written integer is read with its sign and the values of its digits. -/
theorem read?_integerChars (number : Int) :
    IntegerText.read? (integerChars number) =
      some ⟨decide (number < 0), Text.digitValues (Nat.toDigits 10 number.natAbs)⟩ := by
  have digits := Text.asciiDigits_toDigits number.natAbs
  apply IntegerText.read?_of_splitSign _ Nat.toDigits_ne_nil digits
  rw [integerChars_eq]
  by_cases negative : number < 0
  · simp [negative, splitSign]
  · simpa [negative] using splitSign_of_not_sign digits.head_not_sign

theorem withSign_natAbs (number : Int) : withSign (decide (number < 0)) number.natAbs = number := by
  unfold withSign
  split
  · next negative =>
    have : number < 0 := of_decide_eq_true negative
    omega
  · next positive =>
    have : ¬ number < 0 := by simpa using positive
    omega

/-- **An integer within the limit of a conversion is read back from its notation.** -/
theorem convert_integerChars {number : Int} (within : withinDigitLimit number = true) :
    ∃ written, IntegerText.read? (integerChars number) = some written ∧
      written.convert = .ok number := by
  refine ⟨_, read?_integerChars number, ?_⟩
  have length := (Text.asciiDigits_toDigits number.natAbs).length_digitValues
  have short : (Nat.toDigits 10 number.natAbs).length ≤ digitLimit := by
    simpa [withinDigitLimit] using within
  have value : IntegerText.toInt
      ⟨decide (number < 0), Text.digitValues (Nat.toDigits 10 number.natAbs)⟩ = number := by
    rw [IntegerText.toInt, digitValues_toDigits, withSign_natAbs]
  unfold IntegerText.convert
  rw [length, if_pos short, value]

/-- A number that was read from few enough digits has few enough digits. -/
theorem withinDigitLimit_toInt {written : IntegerText} (short : written.digits.length ≤ digitLimit)
    (digits : ∀ d ∈ written.digits, d < 10) : withinDigitLimit written.toInt = true := by
  have magnitude : written.toInt.natAbs = Text.ofDigits 10 written.digits := by
    unfold IntegerText.toInt withSign
    split <;> omega
  have below : Text.ofDigits 10 written.digits < 10 ^ digitLimit :=
    Nat.lt_of_lt_of_le (Text.ofDigits_lt digits) (Nat.pow_le_pow_right (by decide) short)
  rw [withinDigitLimit, magnitude, decide_eq_true_iff,
    Nat.length_toDigits_le_iff (by decide) (by decide)]
  exact below

theorem integerChars_not_blank (number : Int) :
    ∀ c ∈ integerChars number, Text.isBlank c = false := by
  intro c member
  rw [integerChars_eq] at member
  rcases List.mem_append.mp member with sign | digit
  · split at sign
    · rw [List.mem_singleton.mp sign]
      decide
    · exact absurd sign (by simp)
  · exact (Text.asciiDigits_toDigits _).not_blank c digit

end FieldRules
