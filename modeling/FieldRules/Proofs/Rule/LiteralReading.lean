import FieldRules.Proofs.Number.Forms
import FieldRules.Proofs.Rule.RequiresRoundTrip

/-!
# Reading literals

When the text of a literal fits the type of its property, said without reading
it (`TextFits`), and when it has too many digits for a conversion
(`IsOverlong`).  A text that does not fit constrains nothing, and reading fails
for an overlong integer only (`readChars_eq_none_iff`,
`readChars_eq_error_iff`).

What is read has the type of the property, and it can be written again unless it
is a fraction too large for a finite number (`fits_of_readChars`).
-/

set_option autoImplicit false

namespace FieldRules.Literal

/-! ## The content of a string literal -/

/-- What a string literal holds: its trimmed text, without one layer of equal quotes if it has
one. -/
inductive IsContent (s : List Char) : List Char → Prop where
  | quoted (quote : Char) (content : List Char) (isQuote : quote = '\x27' ∨ quote = '\x22')
      (shape : Text.trim s = quote :: (content ++ [quote])) : IsContent s content
  | bare (unquoted : ∀ quote content, quote = '\x27' ∨ quote = '\x22' →
      Text.trim s ≠ quote :: (content ++ [quote])) : IsContent s (Text.trim s)

theorem unquote_of_quotes {quote : Char} (isQuote : quote = '\x27' ∨ quote = '\x22')
    (content : List Char) : unquote (quote :: (content ++ [quote])) = content := by
  rcases isQuote with rfl | rfl
  · simp [unquote, Literal.isQuote]
  · simp [unquote, Literal.isQuote]

/-- Either one layer of quotes is taken off, or there is none. -/
theorem unquote_cases (s : List Char) :
    (∃ quote, (quote = '\x27' ∨ quote = '\x22') ∧ s = quote :: (unquote s ++ [quote])) ∨
      unquote s = s := by
  cases s with
  | nil => exact .inr rfl
  | cons first rest =>
    have opened : unquote (first :: rest) =
        if isQuote first && rest.getLast? == some first then rest.dropLast else first :: rest :=
      rfl
    rw [opened]
    split
    · next quotes =>
      simp only [isQuote, Bool.and_eq_true, Bool.or_eq_true, beq_iff_eq] at quotes
      obtain ⟨isQuote, last⟩ := quotes
      obtain ⟨content, rfl⟩ := List.getLast?_eq_some_iff.mp last
      exact .inl ⟨first, isQuote, by rw [List.dropLast_concat]⟩
    · exact .inr rfl

theorem isContent_iff {s content : List Char} :
    IsContent s content ↔ unquote (Text.trim s) = content := by
  constructor
  · intro isContent
    cases isContent with
    | quoted quote _ isQuote shape =>
      rw [shape]
      exact unquote_of_quotes isQuote content
    | bare unquoted =>
      rcases unquote_cases (Text.trim s) with ⟨quote, isQuote, shape⟩ | same
      · exact absurd shape (unquoted quote _ isQuote)
      · exact same
  · rintro rfl
    rcases unquote_cases (Text.trim s) with ⟨quote, isQuote, shape⟩ | same
    · exact .quoted quote _ isQuote shape
    · rw [same]
      refine .bare ?_
      intro quote content isQuote shape
      -- A layer of quotes would have been taken off.
      rw [shape, unquote_of_quotes isQuote] at same
      have shorter := congrArg List.length same
      simp only [List.length_cons, List.length_append, List.length_nil] at shorter
      omega

/-- The content of a string literal is a part of its text. -/
theorem IsContent.isPart {s content : List Char} (isContent : IsContent s content) :
    content <:+: s := by
  obtain ⟨front, tail, shape, -, -⟩ := Text.trim_split s
  have inside : Text.trim s <:+: s := ⟨front, tail, shape.symm⟩
  cases isContent with
  | quoted quote _ _ layer =>
    have inner : content <:+: Text.trim s := ⟨[quote], [quote], by rw [layer]; simp⟩
    exact inner.trans inside
  | bare => exact inside

/-! ## Texts that fit -/

/-- The text of a literal fits a type: the word true or false in any case on a boolean property,
a text that is not blank on a string property, the form of a number on a number property.  No text
fits another property. -/
def TextFits (type : Option DataType) (s : List Char) : Prop :=
  match type with
  | some .boolean => Text.lower (Text.trim s) = "true".toList ∨
      Text.lower (Text.trim s) = "false".toList
  | some .string => ∃ content, IsContent s content ∧ Text.allBlank content = false
  | some .integer | some .number => (∃ form : IntegerForm, form.chars = Text.trim s) ∨
      ∃ form : DecimalForm, form.chars = Text.trim s
  | some .object | some .array | none => False

/-- An integer on a number property that has more digits than a conversion takes. -/
def IsOverlong (type : Option DataType) (s : List Char) (count : Nat) : Prop :=
  (type = some .integer ∨ type = some .number) ∧
    ∃ form : IntegerForm, form.chars = Text.trim s ∧ form.digits.length = count ∧
      digitLimit < count

theorem readBool_eq_none_iff {s : List Char} :
    readBool s = none ↔ ¬ TextFits (some .boolean) s := by
  have shape : TextFits (some .boolean) s ↔
      Text.lower (Text.trim s) = ['t', 'r', 'u', 'e'] ∨
        Text.lower (Text.trim s) = ['f', 'a', 'l', 's', 'e'] := Iff.rfl
  rw [shape, readBool]
  by_cases isTrue : Text.lower (Text.trim s) = ['t', 'r', 'u', 'e']
  · simp [isTrue]
  · by_cases isFalse : Text.lower (Text.trim s) = ['f', 'a', 'l', 's', 'e']
    · simp [isFalse]
    · simp [isTrue, isFalse]

theorem readText_eq_none_iff {s : List Char} :
    readText s = none ↔ ¬ TextFits (some .string) s := by
  have shape : TextFits (some .string) s ↔ Text.allBlank (unquote (Text.trim s)) = false := by
    simp [TextFits, isContent_iff]
  rw [shape, readText]
  cases Text.allBlank (unquote (Text.trim s)) <;> simp

/-! ## Numbers -/

theorem length_digitValues (form : IntegerForm) :
    (Text.digitValues form.digits).length = form.digits.length :=
  Text.length_digitValues form.allDigits

/-- An integer is converted within the limit and refused beyond it. -/
theorem readNumber_of_form {s : List Char} (form : IntegerForm) (shape : form.chars = Text.trim s) :
    (digitLimit < form.digits.length ∧
      readNumber s = .error (.tooLongToRead form.digits.length)) ∨
    (form.digits.length ≤ digitLimit ∧
      ∃ number, withinDigitLimit number = true ∧ readNumber s = .ok (some (.int number))) := by
  have read := IntegerText.read?_chars form
  rw [shape] at read
  unfold readNumber
  simp only [read, IntegerText.convert, length_digitValues]
  by_cases within : form.digits.length ≤ digitLimit
  · right
    rw [if_pos within]
    refine ⟨within, _, ?_, rfl⟩
    exact withinDigitLimit_toInt (by rw [length_digitValues]; exact within)
      (Text.digitValues_lt form.digits)
  · left
    rw [if_neg within]
    exact ⟨Nat.lt_of_not_le within, rfl⟩

/-- A text without the form of an integer is read as a decimal fraction. -/
theorem readNumber_of_no_form {s : List Char}
    (noForm : ¬ ∃ form : IntegerForm, form.chars = Text.trim s) :
    readNumber s = .ok ((Binary64.ofText? (Text.trim s)).map .float) := by
  have unread : IntegerText.read? (Text.trim s) = none := by
    rw [Option.eq_none_iff_forall_ne_some]
    intro written read
    obtain ⟨form, shape, -⟩ := IntegerText.read?_eq_some_iff.mp read
    exact noForm ⟨form, shape⟩
  unfold readNumber
  simp only [unread]

theorem readNumber_eq_error_iff {s : List Char} {fault : DigitFault} :
    readNumber s = .error fault ↔ ∃ form : IntegerForm, form.chars = Text.trim s ∧
      digitLimit < form.digits.length ∧ fault = .tooLongToRead form.digits.length := by
  constructor
  · intro failed
    by_cases isInteger : ∃ form : IntegerForm, form.chars = Text.trim s
    · obtain ⟨form, shape⟩ := isInteger
      rcases readNumber_of_form form shape with ⟨long, refused⟩ | ⟨-, number, -, read⟩
      · rw [refused] at failed
        exact ⟨form, shape, long, (Except.error.inj failed).symm⟩
      · rw [read] at failed
        exact absurd failed (by simp)
    · rw [readNumber_of_no_form isInteger] at failed
      exact absurd failed (by simp)
  · rintro ⟨form, shape, long, rfl⟩
    rcases readNumber_of_form form shape with ⟨-, refused⟩ | ⟨short, -⟩
    · exact refused
    · exact absurd short (Nat.not_le.mpr long)

theorem readNumber_eq_none_iff {s : List Char} :
    readNumber s = .ok none ↔ ¬ ((∃ form : IntegerForm, form.chars = Text.trim s) ∨
      ∃ form : DecimalForm, form.chars = Text.trim s) := by
  by_cases isInteger : ∃ form : IntegerForm, form.chars = Text.trim s
  · obtain ⟨form, shape⟩ := isInteger
    have fits : (∃ form : IntegerForm, form.chars = Text.trim s) ∨
        ∃ form : DecimalForm, form.chars = Text.trim s := .inl ⟨form, shape⟩
    rcases readNumber_of_form form shape with ⟨-, refused⟩ | ⟨-, number, -, read⟩
    · simp [refused, fits]
    · simp [read, fits]
  · rw [readNumber_of_no_form isInteger, ← Binary64.isSome_ofText?_iff]
    cases Binary64.ofText? (Text.trim s) <;> simp [isInteger]

/-! ## All types -/

variable {type : Option DataType} {s : List Char}

/-- **A text that does not fit the type of its property constrains nothing.** -/
theorem readChars_eq_none_iff : readChars type s = .ok none ↔ ¬ TextFits type s := by
  match type with
  | some .boolean =>
    have opened : readChars (some .boolean) s = .ok (readBool s) := rfl
    rw [opened, Except.ok.injEq]
    exact readBool_eq_none_iff
  | some .string =>
    have opened : readChars (some .string) s = .ok (readText s) := rfl
    rw [opened, Except.ok.injEq]
    exact readText_eq_none_iff
  | some .integer => exact readNumber_eq_none_iff
  | some .number => exact readNumber_eq_none_iff
  | some .object | some .array | none => exact ⟨fun _ => id, fun _ => rfl⟩

/-- **Reading a literal fails for an overlong integer only.** -/
theorem readChars_eq_error_iff {fault : DigitFault} :
    readChars type s = .error fault ↔
      ∃ count, IsOverlong type s count ∧ fault = .tooLongToRead count := by
  have numbers (isNumber : type = some .integer ∨ type = some .number) :
      (∃ form : IntegerForm, form.chars = Text.trim s ∧ digitLimit < form.digits.length ∧
        fault = .tooLongToRead form.digits.length) ↔
      ∃ count, IsOverlong type s count ∧ fault = .tooLongToRead count := by
    constructor
    · rintro ⟨form, shape, long, same⟩
      exact ⟨_, ⟨isNumber, form, shape, rfl, long⟩, same⟩
    · rintro ⟨_, ⟨-, form, shape, rfl, long⟩, same⟩
      exact ⟨form, shape, long, same⟩
  match type with
  | some .integer => exact readNumber_eq_error_iff.trans (numbers (.inl rfl))
  | some .number => exact readNumber_eq_error_iff.trans (numbers (.inr rfl))
  | some .boolean | some .string | some .object | some .array | none =>
    simp [readChars, IsOverlong]

/-- What is read fits the type of the property, unless it is no finite number. -/
theorem fits_of_readChars {literal : Literal} (read : readChars type s = .ok (some literal)) :
    literal.Fits type ∨ ∃ number, literal = .float number ∧ number.isFinite = false := by
  have number (isNumber : type = some .integer ∨ type = some .number)
      (found : readNumber s = .ok (some literal)) :
      literal.Fits type ∨ ∃ number, literal = .float number ∧ number.isFinite = false := by
    by_cases isInteger : ∃ form : IntegerForm, form.chars = Text.trim s
    · obtain ⟨form, shape⟩ := isInteger
      rcases readNumber_of_form form shape with ⟨-, refused⟩ | ⟨-, value, within, converted⟩
      · rw [refused] at found
        exact absurd found (by simp)
      · rw [converted] at found
        obtain rfl := Option.some.inj (Except.ok.inj found)
        exact .inl ⟨isNumber, within⟩
    · rw [readNumber_of_no_form isInteger, Except.ok.injEq, Option.map_eq_some_iff] at found
      obtain ⟨value, -, rfl⟩ := found
      cases finite : value.isFinite with
      | true => exact .inl ⟨isNumber, finite⟩
      | false => exact .inr ⟨value, rfl, finite⟩
  match type with
  | some .integer => exact number (.inl rfl) read
  | some .number => exact number (.inr rfl) read
  | some .boolean =>
    have found : readBool s = some literal := Except.ok.inj read
    unfold readBool at found
    dsimp only at found
    split at found
    · exact .inl (Option.some.inj found ▸ rfl)
    · split at found
      · exact .inl (Option.some.inj found ▸ rfl)
      · exact absurd found (by simp)
  | some .string =>
    have found : readText s = some literal := Except.ok.inj read
    unfold readText at found
    dsimp only at found
    split at found
    · exact absurd found (by simp)
    · next shown =>
      obtain rfl := Option.some.inj found
      refine .inl ⟨rfl, ?_⟩
      rw [String.toList_ofList]
      exact Bool.eq_false_of_not_eq_true shown
  | some .object | some .array | none => exact absurd read (by simp [readChars])

/-- A text that is read from a literal is a part of the literal. -/
theorem part_of_readChars {content : String}
    (read : readChars type s = .ok (some (.text content))) : content.toList <:+: s := by
  rcases fits_of_readChars read with ⟨rfl, -⟩ | ⟨number, same, -⟩
  · have found : readText s = some (.text content) := Except.ok.inj read
    unfold readText at found
    dsimp only at found
    split at found
    · exact absurd found (by simp)
    · rw [← Literal.text.inj (Option.some.inj found), String.toList_ofList]
      exact (isContent_iff.mpr rfl).isPart
  · exact absurd same (by simp)

end FieldRules.Literal
