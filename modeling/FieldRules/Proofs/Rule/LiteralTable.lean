import FieldRules.Proofs.Number.Denotation
import FieldRules.Proofs.Schema.FailSoft
import FieldRules.Proofs.Text.LowerCase

/-!
# The table of literals

What the text of a literal means on a property of each type, as a relation that
reads nothing (`Literal.Means`): a word up to the case of its ASCII letters, the
content of a string, the number that an integer or a decimal fraction denotes.

Reading computes this relation on every text.  A text that means a literal is read
as that literal unless it is an overlong integer, and a text that means none is
read as no literal (`Literal.readChars_eq_some_iff`,
`Literal.readChars_eq_ok_none_iff`).  With the refusals of overlong integers this
says all that typing a literal can do (`Unchecked.FollowsTable`).
-/

set_option autoImplicit false

namespace FieldRules

namespace Literal

/-! ## The table -/

/-- The literal that a text means on a property of a type.  On a boolean property it is the word
true or false in ASCII letters of either case, on a string property the content of the text unless
it is blank, and on a number property the integer that the text denotes if it has the form of one,
else the number nearest to the decimal fraction that it denotes.  Blanks around the text do not
matter.  No text means a literal on a property of another type. -/
inductive Means (s : List Char) : Option DataType → Literal → Prop where
  | wordTrue (word : (Text.trim s).map Char.toLower = ['t', 'r', 'u', 'e']) :
      Means s (some .boolean) (.bool true)
  | wordFalse (word : (Text.trim s).map Char.toLower = ['f', 'a', 'l', 's', 'e']) :
      Means s (some .boolean) (.bool false)
  | text (content : String) (isContent : IsContent s content.toList)
      (shown : Text.allBlank content.toList = false) : Means s (some .string) (.text content)
  | integer (type : DataType) (isNumber : type = .integer ∨ type = .number) (form : IntegerForm)
      (shape : form.chars = Text.trim s) (number : Int) (denotes : form.Denotes number) :
      Means s (some type) (.int number)
  | fraction (type : DataType) (isNumber : type = .integer ∨ type = .number)
      (noInteger : ¬ ∃ form : IntegerForm, form.chars = Text.trim s) (form : DecimalForm)
      (shape : form.chars = Text.trim s) (number : Decimal) (denotes : form.Denotes number) :
      Means s (some type) (.float (.ofDecimal number))

variable {s : List Char} {literal : Literal}

/-! ## Words -/

theorem readBool_eq_some_iff : readBool s = some literal ↔ Means s (some .boolean) literal := by
  have isTrue : Text.lower (Text.trim s) = ['t', 'r', 'u', 'e'] ↔
      (Text.trim s).map Char.toLower = ['t', 'r', 'u', 'e'] := Text.lower_eq_iff (by simp)
  have isFalse : Text.lower (Text.trim s) = ['f', 'a', 'l', 's', 'e'] ↔
      (Text.trim s).map Char.toLower = ['f', 'a', 'l', 's', 'e'] := Text.lower_eq_iff (by simp)
  constructor
  · intro found
    simp only [readBool, beq_iff_eq] at found
    split at found
    · next word => exact Option.some.inj found ▸ .wordTrue (isTrue.mp word)
    · split at found
      · next word => exact Option.some.inj found ▸ .wordFalse (isFalse.mp word)
      · exact absurd found (by simp)
  · intro means
    cases means with
    | wordTrue word => simp [readBool, isTrue.mpr word]
    | wordFalse word => simp [readBool, isFalse.mpr word]
    | integer _ isNumber => exact absurd isNumber (by decide)
    | fraction _ isNumber => exact absurd isNumber (by decide)

/-! ## Strings -/

theorem readText_eq_some_iff : readText s = some literal ↔ Means s (some .string) literal := by
  constructor
  · intro found
    simp only [readText] at found
    split at found
    · exact absurd found (by simp)
    · next shown =>
      obtain rfl := Option.some.inj found
      refine .text _ ?_ ?_
      · rw [String.toList_ofList]
        exact isContent_iff.mpr rfl
      · rw [String.toList_ofList]
        exact Bool.eq_false_of_not_eq_true shown
  · intro means
    cases means with
    | text content isContent shown => simp [readText, isContent_iff.mp isContent, shown]
    | integer _ isNumber => exact absurd isNumber (by decide)
    | fraction _ isNumber => exact absurd isNumber (by decide)

/-! ## Numbers -/

theorem readNumber_of_denotes {form : IntegerForm} (shape : form.chars = Text.trim s)
    (short : form.digits.length ≤ digitLimit) {number : Int} (denotes : form.Denotes number) :
    readNumber s = .ok (some (.int number)) := by
  have read := IntegerText.read?_chars form
  rw [shape] at read
  unfold readNumber
  simp only [read, IntegerText.convert, length_digitValues, if_pos short,
    form.denotes_iff.mp denotes]
  rfl

theorem means_of_readNumber {type : DataType} (isNumber : type = .integer ∨ type = .number)
    (read : readNumber s = .ok (some literal)) : Means s (some type) literal := by
  by_cases isInteger : ∃ form : IntegerForm, form.chars = Text.trim s
  · obtain ⟨form, shape⟩ := isInteger
    obtain ⟨number, denotes⟩ := form.exists_denotes
    rcases readNumber_of_form form shape with ⟨-, refused⟩ | ⟨short, -⟩
    · exact absurd (refused.symm.trans read) (by simp)
    · have found := (readNumber_of_denotes shape short denotes).symm.trans read
      obtain rfl := Option.some.inj (Except.ok.inj found)
      exact .integer type isNumber form shape number denotes
  · rw [readNumber_of_no_form isInteger, Except.ok.injEq, Binary64.ofText?, Option.map_map,
      Option.map_eq_some_iff] at read
    obtain ⟨number, found, rfl⟩ := read
    obtain ⟨form, shape, denotes⟩ := Decimal.read?_eq_some_iff.mp found
    exact .fraction type isNumber isInteger form shape number denotes

/-! ## All types -/

variable {type : Option DataType}

theorem readChars_of_isNumber {kind : DataType} (isNumber : kind = .integer ∨ kind = .number) :
    readChars (some kind) s = readNumber s := by
  rcases isNumber with rfl | rfl
  · rfl
  · rfl

theorem means_of_readChars (read : readChars type s = .ok (some literal)) :
    Means s type literal := by
  match type with
  | some .boolean => exact readBool_eq_some_iff.mp (Except.ok.inj read)
  | some .string => exact readText_eq_some_iff.mp (Except.ok.inj read)
  | some .integer => exact means_of_readNumber (.inl rfl) read
  | some .number => exact means_of_readNumber (.inr rfl) read
  | some .object | some .array | none => exact absurd read (by simp [readChars])

theorem not_overlong_of_readChars {value : Option Literal} (read : readChars type s = .ok value)
    (count : Nat) : ¬ IsOverlong type s count := by
  intro overlong
  have refused := readChars_eq_error_iff.mpr ⟨count, overlong, rfl⟩
  exact absurd (read.symm.trans refused) (by simp)

/-- **A text is read as a literal exactly when it means the literal and is no overlong integer.** -/
theorem readChars_eq_some_iff : readChars type s = .ok (some literal) ↔
    Means s type literal ∧ ∀ count, ¬ IsOverlong type s count := by
  constructor
  · intro read
    exact ⟨means_of_readChars read, not_overlong_of_readChars read⟩
  · rintro ⟨means, short⟩
    cases means with
    | wordTrue word => exact congrArg Except.ok (readBool_eq_some_iff.mpr (.wordTrue word))
    | wordFalse word => exact congrArg Except.ok (readBool_eq_some_iff.mpr (.wordFalse word))
    | text content isContent shown =>
      exact congrArg Except.ok (readText_eq_some_iff.mpr (.text content isContent shown))
    | integer type isNumber form shape number denotes =>
      rw [readChars_of_isNumber isNumber]
      apply readNumber_of_denotes shape _ denotes
      by_contra long
      have isType : some type = some .integer ∨ some type = some .number :=
        isNumber.imp (congrArg some) (congrArg some)
      exact short _ ⟨isType, form, shape, rfl, Nat.lt_of_not_le long⟩
    | fraction type isNumber noInteger form shape number denotes =>
      have found := Decimal.read?_eq_some_iff.mpr ⟨form, shape, denotes⟩
      rw [readChars_of_isNumber isNumber, readNumber_of_no_form noInteger, Binary64.ofText?, found]
      rfl

theorem IsOverlong.exists_means {count : Nat} (overlong : IsOverlong type s count) :
    ∃ literal, Means s type literal := by
  obtain ⟨isType, form, shape, -⟩ := overlong
  obtain ⟨number, denotes⟩ := form.exists_denotes
  rcases isType with rfl | rfl
  · exact ⟨_, .integer .integer (.inl rfl) form shape number denotes⟩
  · exact ⟨_, .integer .number (.inr rfl) form shape number denotes⟩

/-- **A text is read as no literal exactly when it means none.** -/
theorem readChars_eq_ok_none_iff :
    readChars type s = .ok none ↔ ∀ literal, ¬ Means s type literal := by
  constructor
  · intro read literal means
    have found := readChars_eq_some_iff.mpr ⟨means, not_overlong_of_readChars read⟩
    exact absurd (read.symm.trans found) (by simp)
  · intro meaningless
    cases read : readChars type s with
    | error fault =>
      obtain ⟨count, overlong, -⟩ := readChars_eq_error_iff.mp read
      obtain ⟨literal, means⟩ := overlong.exists_means
      exact absurd means (meaningless literal)
    | ok value =>
      cases value with
      | none => rfl
      | some literal => exact absurd (means_of_readChars read) (meaningless literal)

end Literal

/-! ## Typing a literal -/

namespace Unchecked

/-- What comes of typing the text of a literal follows the table: a literal that the text means, no
literal for an absent text or one that means none, and a refusal for an overlong integer only. -/
structure FollowsTable (type : Option DataType) (text : Option String)
    (attempt : Attempt (Option Literal)) : Prop where
  /-- A literal comes back exactly when the text means it, overlong integers apart. -/
  value : ∀ literal, attempt.result = .ok (some literal) ↔ ∃ content ∈ text,
    Literal.Means content.toList type literal ∧
      ∀ count, ¬ Literal.IsOverlong type content.toList count
  /-- No literal comes back exactly when the text is absent or means none. -/
  nothing : attempt.result = .ok none ↔
    ∀ content ∈ text, ∀ literal, ¬ Literal.Means content.toList type literal
  /-- Typing is refused exactly for an overlong integer, with the count of its digits. -/
  refused : ∀ refusal, attempt.result = .error refusal ↔ ∃ content ∈ text,
    ∃ count, Literal.IsOverlong type content.toList count ∧
      refusal = .digits (.tooLongToRead count)

/-- **Typing a literal computes the table on every text.** -/
theorem coerce_followsTable (type : Option DataType) (text : Option String) :
    FollowsTable type text (coerce type text) := by
  cases text with
  | none =>
    have nothing : (coerce type none).result = .ok none := rfl
    refine ⟨fun literal => ?_, ?_, fun refusal => ?_⟩
    · simp [nothing]
    · simp [nothing]
    · simp [nothing]
  | some content =>
    have softly := coercesSoftly type content
    refine ⟨fun literal => ?_, ?_, fun refusal => ?_⟩
    · rw [result_coerce, Traversal.mapError_eq_ok_iff, Literal.readChars_eq_some_iff]
      simp
    · rw [result_coerce, Traversal.mapError_eq_ok_iff, Literal.readChars_eq_ok_none_iff]
      simp
    · simpa using softly.refused refusal

end Unchecked

end FieldRules
