import FieldRules.Proofs.Rule.WrittenRequires
import FieldRules.Proofs.Schema.Declared

/-!
# Requirements are read back

A requirement about a schema is written, and its text is read as the same
requirement.  The recogniser finds the two sides as they were written, so what
is left is each literal on its own.

A literal that fits the type of its property is read back from its written form
(`Literal.readChars_chars`).  The quotes around a text are taken off again,
whatever the text holds, and a number keeps the form it was written in: an
integer stays an integer on a property of either number type.
-/

set_option autoImplicit false

namespace FieldRules

namespace Literal

/-- The literals that a property of a type can be constrained to: truth values on a boolean
property, texts that are not blank on a string property, and on a property of a number type
integers within the limit of a conversion and finite numbers. -/
def Fits (type : Option DataType) : Literal → Prop
  | .bool _ => type = some .boolean
  | .text content => type = some .string ∧ Text.allBlank content.toList = false
  | .int number =>
    (type = some .integer ∨ type = some .number) ∧ withinDigitLimit number = true
  | .float number => (type = some .integer ∨ type = some .number) ∧ number.isFinite = true

theorem Fits.isWritable {type : Option DataType} {literal : Literal}
    (fits : literal.Fits type) : literal.IsWritable := by
  cases literal with
  | bool truth => trivial
  | int number => exact fits.2
  | float number => exact fits.2
  | text content => exact fits.2

/-! ## Each form -/

theorem trim_of_solid {s : List Char} (solid : ∀ c ∈ s, Text.isBlank c = false) :
    Text.trim s = s :=
  Text.trim_eq_self (fun c first => solid c (List.mem_of_mem_head? first))
    (fun c last => solid c (List.mem_of_getLast? last))

/-- No blank stands around a text in quotes. -/
theorem trim_inQuotes (content : List Char) :
    Text.trim (Expression.inQuotes content) = Expression.inQuotes content := by
  have quote : Text.isBlank '\x27' = false := by decide
  have last : (Expression.inQuotes content).getLast? = some '\x27' := by
    rw [Expression.inQuotes, ← List.cons_append, List.getLast?_concat]
  apply Text.trim_eq_self
  · intro c first
    obtain rfl : '\x27' = c := Option.some.inj first
    exact quote
  · intro c final
    obtain rfl : '\x27' = c := Option.some.inj (last.symm.trans final)
    exact quote

theorem readText_inQuotes {content : String} (shown : Text.allBlank content.toList = false) :
    readText (Expression.inQuotes content.toList) = some (.text content) := by
  have inside : unquote (Expression.inQuotes content.toList) = content.toList := by
    simp [unquote, Expression.inQuotes, isQuote]
  unfold readText
  rw [trim_inQuotes, inside]
  simp [shown]

theorem readNumber_integerChars {number : Int} (within : withinDigitLimit number = true) :
    readNumber (integerChars number) = .ok (some (.int number)) := by
  obtain ⟨written, read, converted⟩ := convert_integerChars within
  unfold readNumber
  rw [trim_of_solid (integerChars_not_blank number)]
  simp only [read, converted]
  rfl

theorem readNumber_chars {number : Binary64} (finite : number.isFinite = true) :
    readNumber number.chars = .ok (some (.float number)) := by
  unfold readNumber
  rw [trim_of_solid (Binary64.chars_not_blank finite)]
  simp only [Binary64.read?_chars_eq_none finite, Binary64.ofText?_chars finite]
  rfl

/-! ## All forms -/

/-- **A literal that fits the type of its property is read back from its written form.** -/
theorem readChars_chars {type : Option DataType} {literal : Literal} (fits : literal.Fits type) :
    readChars type literal.chars = .ok (some literal) := by
  cases literal with
  | bool truth =>
    obtain rfl : type = some .boolean := fits
    cases truth <;> decide
  | text content =>
    obtain ⟨rfl, shown⟩ := fits
    exact congrArg Except.ok (readText_inQuotes shown)
  | int number =>
    obtain ⟨rfl | rfl, within⟩ := fits
    · exact readNumber_integerChars within
    · exact readNumber_integerChars within
  | float number =>
    obtain ⟨rfl | rfl, finite⟩ := fits
    · exact readNumber_chars finite
    · exact readNumber_chars finite

theorem read_written {type : Option DataType} {value : Option Literal}
    (fits : ∀ literal ∈ value, literal.Fits type) (key : String) :
    read type (Requires.writtenSide key value).literal = .ok value := by
  cases value with
  | none => rfl
  | some literal =>
    have back := readChars_chars (fits literal rfl)
    simpa [Requires.writtenSide, read] using back

end Literal

namespace Requires

/-! ## Whole requirements -/

/-- A requirement that a schema can hold: two different plain keys that are declared, and literals
that fit their properties. -/
structure FitsSchema (rule : Requires) (schema : Schema) : Prop where
  prerequisiteDeclared : schema.declares rule.prerequisiteKey = true
  dependantDeclared : schema.declares rule.dependantKey = true
  prerequisitePlain : IsPlainKey rule.prerequisiteKey
  dependantPlain : IsPlainKey rule.dependantKey
  different : rule.prerequisiteKey ≠ rule.dependantKey
  prerequisiteFits : ∀ literal ∈ rule.prerequisiteValue,
    literal.Fits ((schema.property? rule.prerequisiteKey).bind (·.type))
  dependantFits : ∀ literal ∈ rule.dependantValue,
    literal.Fits ((schema.property? rule.dependantKey).bind (·.type))

variable {rule : Requires} {schema : Schema}

theorem FitsSchema.isPlain (fits : rule.FitsSchema schema) : rule.IsPlain where
  prerequisiteKey := fits.prerequisitePlain
  dependantKey := fits.dependantPlain
  different := fits.different
  prerequisiteValue literal value := (fits.prerequisiteFits literal value).isWritable
  dependantValue literal value := (fits.dependantFits literal value).isWritable

/-- The sides as they were written are resolved to the requirement. -/
theorem resolveSides_written (fits : rule.FitsSchema schema) :
    Expression.resolveSides schema (writtenSide rule.prerequisiteKey rule.prerequisiteValue)
      (writtenSide rule.dependantKey rule.dependantValue) = .ok (.ok rule) := by
  have declared : schema.undeclared [rule.prerequisiteKey, rule.dependantKey] = [] := by
    rw [Schema.undeclared_eq_nil_iff]
    intro key member
    rcases List.mem_pair.mp member with rfl | rfl
    · exact fits.prerequisiteDeclared
    · exact fits.dependantDeclared
  have different : (rule.prerequisiteKey == rule.dependantKey) = false :=
    beq_eq_false_iff_ne.mpr fits.different
  have first := Literal.read_written fits.prerequisiteFits rule.prerequisiteKey
  have second := Literal.read_written fits.dependantFits rule.dependantKey
  unfold writtenSide at first second ⊢
  simp only [Expression.resolveSides, declared, different, first, second]
  rfl

/-- The text of a requirement whose first literal holds no consequent is read as the
requirement. -/
theorem read_text (fits : rule.FitsSchema schema) (free : ∀ content, ¬ rule.Embeds content) :
    Requires.read schema (rule.text fits.isPlain) =
      .ok ⟨rule.text fits.isPlain, .requires, .ok rule⟩ := by
  rw [Requires.read, ofText_of_free fits.isPlain free, Expression.toRequires,
    resolveSides_written fits]
  rfl

/-- **A requirement about a schema is read back from its text.** -/
theorem read_write (schema : Schema) (rule : Requires) (fits : rule.FitsSchema schema)
    (free : ∀ content, rule.prerequisiteValue = some (.text content) →
      ¬ Expression.HoldsConsequent content.toList) :
    ∃ text, (Dependency.requires rule).write = .ok text ∧
      Requires.read schema text = .ok ⟨text, .requires, .ok rule⟩ := by
  have free' (content : String) : ¬ rule.Embeds content := fun embeds =>
    free content embeds.1 embeds.2
  refine ⟨rule.text fits.isPlain, write_of_free fits.isPlain free', ?_⟩
  rw [Requires.read, ofText_of_free fits.isPlain free', Expression.toRequires,
    resolveSides_written fits]
  rfl

/-- A text with the word, a semicolon, the sign and a quote in it, on a string property. -/
theorem read_back_of_hostile_text :
    ∃ text, (Dependency.requires
        ⟨"a", some (.text "x THEN y; \x27== "), "b", some (.int (-7))⟩).write = .ok text ∧
      Requires.read ⟨.ofList [⟨"a", some .string, none, none⟩, ⟨"b", some .number, none, none⟩], []⟩
          text =
        .ok ⟨text, .requires, .ok ⟨"a", some (.text "x THEN y; \x27== "), "b", some (.int (-7))⟩⟩ :=
  read_write _ _
    { prerequisiteDeclared := by decide
      dependantDeclared := by decide
      prerequisitePlain := isPlainKey_of_keyChars rfl
      dependantPlain := isPlainKey_of_keyChars rfl
      different := by decide
      prerequisiteFits := by
        rintro literal ⟨⟩
        exact ⟨by decide, by decide⟩
      dependantFits := by
        rintro literal ⟨⟩
        exact ⟨by decide, by decide⟩ }
    (by
      rintro content ⟨⟩
      rw [← Expression.embedsConsequent_iff]
      decide)

end Requires

end FieldRules
