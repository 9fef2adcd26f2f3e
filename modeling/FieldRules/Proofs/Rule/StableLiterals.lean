import FieldRules.Proofs.Rule.LiteralTable

/-!
# Literals that were read are read again

The text of a literal can be spelled in many ways, and what it is read as has one
written form.  A literal that was read fits the type of its property
(`Literal.fits_or_infinite`), so its written form is read as the same literal on
the same property, whatever the first text was.

The infinite numbers are the exception.  A fraction too large for a finite number
is read as an infinite one (`Binary64.ofDecimal_cases`), and an infinite number has
no written form.
-/

set_option autoImplicit false

namespace FieldRules

/-! ## Numbers that fractions are read as -/

namespace Binary64

theorem ofUnits_cases (negative : Bool) (numerator denominator : Nat) :
    (ofUnits negative numerator denominator).isFinite = true ∨
      ofUnits negative numerator denominator = .infinite negative := by
  unfold ofUnits
  dsimp only
  split
  · exact .inl rfl
  · exact .inr rfl

/-- A fraction is read as a finite number or as the infinite one of its sign. -/
theorem ofDecimal_cases (number : Decimal) :
    (ofDecimal number).isFinite = true ∨ ofDecimal number = .infinite number.negative := by
  unfold ofDecimal
  dsimp only
  split
  · exact .inl rfl
  · split
    · exact .inr rfl
    · cases number.exponent with
      | ofNat power => exact ofUnits_cases _ _ _
      | negSucc below => exact ofUnits_cases _ _ _

end Binary64

namespace Literal

variable {type : Option DataType} {s : List Char} {literal : Literal}

/-- A literal that was read fits the type of its property, unless it is an infinite number. -/
theorem fits_or_infinite (read : readChars type s = .ok (some literal)) :
    literal.Fits type ∨ ∃ negative, literal = .float (.infinite negative) := by
  rcases fits_of_readChars read with fits | ⟨number, rfl, notFinite⟩
  · exact .inl fits
  · right
    cases means_of_readChars read with
    | fraction _ _ _ _ _ decimal _ =>
      rcases Binary64.ofDecimal_cases decimal with finite | infinite
      · exact absurd (notFinite.symm.trans finite) (by decide)
      · exact ⟨_, congrArg Literal.float infinite⟩

end Literal

/-! ## Typing what was written -/

namespace Unchecked

/-- **A literal that was typed has a written form, and typing this form gives the literal again.**
An infinite number is refused by the writer instead. -/
theorem coerce_stable (type : Option DataType) (content : String) (literal : Literal)
    (coerced : (coerce type (some content)).result = .ok (some literal)) :
    ((∀ negative, literal ≠ .float (.infinite negative)) →
      ∃ rendering, Draft.literalChars literal.toValue = .ok (Expression.equalsSign ++ rendering) ∧
        (coerce type (some (String.ofList rendering))).result = .ok (some literal)) ∧
    (∀ negative, literal = .float (.infinite negative) →
      Draft.literalChars literal.toValue = .error (.notFinite (.infinite negative))) := by
  rw [result_coerce, Traversal.mapError_eq_ok_iff] at coerced
  constructor
  · intro bounded
    have fits : literal.Fits type :=
      (Literal.fits_or_infinite coerced).resolve_right fun ⟨negative, same⟩ => bounded negative same
    have writable : ∀ l ∈ some literal, l.IsWritable := by
      rintro _ ⟨⟩
      exact fits.isWritable
    refine ⟨literal.chars, Literal.literalChars_valueOf writable, ?_⟩
    rw [result_coerce, String.toList_ofList, Literal.readChars_chars fits]
    rfl
  · rintro negative rfl
    rfl

/-- Digits of two scripts behind a sign that is not written. -/
theorem stable_digits_of_two_scripts :
    (coerce (some .number) (some " +٠7 ")).result = .ok (some (.int 7)) ∧
      ∃ rendering, Draft.literalChars (.int 7) = .ok (Expression.equalsSign ++ rendering) ∧
        (coerce (some .number) (some (String.ofList rendering))).result = .ok (some (.int 7)) :=
  ⟨rfl, (coerce_stable (some .number) " +٠7 " (.int 7) rfl).1 (by simp)⟩

/-- A fraction beyond the finite numbers is typed, and what it is typed as cannot be written. -/
theorem typed_number_without_form :
    (coerce (some .number) (some "1e400")).result = .ok (some (.float (.infinite false))) ∧
      ¬ ∃ rendering,
        Draft.literalChars (Literal.toValue (.float (.infinite false))) = .ok rendering := by
  have read : Literal.readChars (some .number) "1e400".toList =
      .ok (some (.float (.infinite false))) := by decide +kernel
  constructor
  · rw [result_coerce, read]
    rfl
  · rintro ⟨rendering, written⟩
    exact absurd written (by simp [Literal.toValue, Draft.literalChars, Binary64.isFinite])

end Unchecked

end FieldRules
