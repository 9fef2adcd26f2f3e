import FieldRules.Proofs.Number.ReadBack
import FieldRules.Proofs.Rule.EmbeddedConsequent

/-!
# The text of a requirement

The writer spells a requirement with one blank around each word and none in
front of the semicolon.  It refuses a requirement with fit parts for one reason
only, a string literal of the prerequisite that holds a consequent
(`Requires.write_of_free`, `Requires.write_of_embeds`).

That refusal is exact.  A requirement that is not refused is read with the sides
that were written (`Requires.ofText_of_free`), and one that is refused would be
read with another first literal (`Requires.exists_ofText_of_embeds`).
-/

set_option autoImplicit false

namespace FieldRules

open Expression (Consequent Spelling IsKey constraint inQuotes HoldsConsequent)

/-! ## Written literals -/

namespace Literal

/-- The written form of a literal. -/
def chars : Literal → List Char
  | .bool truth => if truth then ['t', 'r', 'u', 'e'] else ['f', 'a', 'l', 's', 'e']
  | .int number => integerChars number
  | .float number => number.chars
  | .text content => inQuotes content.toList

/-- The literals that have a written form: an integer within the limit of a conversion, a finite
number, a text that is not blank. -/
def IsWritable : Literal → Prop
  | .bool _ => True
  | .int number => withinDigitLimit number = true
  | .float number => number.isFinite = true
  | .text content => Text.allBlank content.toList = false

theorem literalChars_valueOf {literal : Option Literal} (writable : ∀ l ∈ literal, l.IsWritable) :
    Draft.literalChars (valueOf literal) = .ok (constraint (literal.map chars)) := by
  cases literal with
  | none => rfl
  | some l =>
    have fit := writable l rfl
    cases l with
    | bool truth => cases truth <;> rfl
    | int number => exact if_pos fit
    | float number => exact if_pos fit
    | text content =>
      have shown : ¬ Text.allBlank content.toList = true := by
        rw [show Text.allBlank content.toList = false from fit]
        simp
      exact if_neg shown

theorem isWritable_of_literalChars {literal : Option Literal} {rendering : List Char}
    (rendered : Draft.literalChars (valueOf literal) = .ok rendering) :
    ∀ l ∈ literal, l.IsWritable := by
  rintro l rfl
  cases l with
  | bool truth => trivial
  | int number =>
    by_cases within : withinDigitLimit number = true
    · exact within
    · exact absurd ((if_neg within).symm.trans rendered) (by simp)
  | float number =>
    by_cases finite : number.isFinite = true
    · exact finite
    · exact absurd ((if_neg finite).symm.trans rendered) (by simp)
  | text content =>
    by_cases blank : Text.allBlank content.toList = true
    · exact absurd ((if_pos blank).symm.trans rendered) (by simp)
    · exact Bool.eq_false_of_not_eq_true blank

theorem chars_not_blank {literal : Literal} (writable : literal.IsWritable)
    (solid : ∀ content, literal ≠ .text content) :
    ∀ c ∈ literal.chars, Text.isBlank c = false := by
  cases literal with
  | bool truth =>
    have solid : (Literal.bool truth).chars.all (!Text.isBlank ·) = true := by
      cases truth <;> decide
    intro c member
    simpa using List.all_eq_true.mp solid c member
  | int number => exact integerChars_not_blank number
  | float number => exact Binary64.chars_not_blank writable
  | text content => exact absurd rfl (solid content)

/-- No blank stands at the end of a written literal. -/
theorem trimEnd_chars {literal : Literal} (writable : literal.IsWritable) :
    Text.trimEnd literal.chars = literal.chars := by
  apply Text.trimEnd_eq_self
  intro c last
  cases literal with
  | text content =>
    have quote : (inQuotes content.toList).getLast? = some '\x27' := by
      rw [inQuotes, ← List.cons_append, List.getLast?_concat]
    have same : '\x27' = c := Option.some.inj (quote.symm.trans last)
    rw [← same]
    decide
  | bool truth =>
    exact chars_not_blank writable (by simp) c (List.mem_of_getLast? last)
  | int number =>
    exact chars_not_blank writable (by simp) c (List.mem_of_getLast? last)
  | float number =>
    exact chars_not_blank writable (by simp) c (List.mem_of_getLast? last)

theorem trimEnd_map_chars {literal : Option Literal} (writable : ∀ l ∈ literal, l.IsWritable) :
    (literal.map chars).map Text.trimEnd = literal.map chars := by
  cases literal with
  | none => rfl
  | some l => exact congrArg some (trimEnd_chars (writable l rfl))

end Literal

/-! ## Keys -/

/-- A key that can be written: not empty, and without a character that ends a key. -/
def IsPlainKey (key : String) : Prop :=
  key ≠ "" ∧ ∀ c ∈ key.toList, Draft.isDelimiter c = false

theorem IsPlainKey.keyChars {key : String} (plain : IsPlainKey key) :
    Draft.keyChars (.text key) = .ok key.toList := by
  obtain ⟨nonempty, inside⟩ := plain
  have noDelimiter : ¬ key.toList.any Draft.isDelimiter = true := by
    rw [Bool.not_eq_true, List.any_eq_false]
    intro c member
    simp [inside c member]
  have filled : ¬ (key == "") = true := by simpa using nonempty
  exact (if_neg filled).trans (if_neg noDelimiter)

theorem isPlainKey_of_keyChars {key : String}
    (accepted : Draft.keyChars (.text key) = .ok key.toList) : IsPlainKey key := by
  by_cases empty : (key == "") = true
  · exact absurd ((if_pos empty).symm.trans accepted) (by simp)
  · have behind := (if_neg empty).symm.trans accepted
    by_cases delimiter : key.toList.any Draft.isDelimiter = true
    · exact absurd ((if_pos delimiter).symm.trans behind) (by simp)
    · refine ⟨by simpa using empty, fun c member => ?_⟩
      rw [Bool.not_eq_true, List.any_eq_false] at delimiter
      simpa using delimiter c member

theorem IsPlainKey.isKey {key : String} (plain : IsPlainKey key) : IsKey key.toList := by
  obtain ⟨nonempty, inside⟩ := plain
  refine ⟨fun empty => nonempty (String.toList_inj.mp (by rw [empty]; rfl)), fun c member => ?_⟩
  have free := inside c member
  simp only [Draft.isDelimiter, Bool.or_eq_false_iff, beq_eq_false_iff_ne] at free
  obtain ⟨⟨⟨⟨⟨notBlank, notSign⟩, notClose⟩, -⟩, -⟩, -⟩ := free
  exact (Expression.isKeyChar_iff c).mpr ⟨notBlank, notSign, notClose⟩

/-! ## Requirements as they are written -/

namespace Requires

/-- A requirement with fit parts: two different keys and literals that can be written. -/
structure IsPlain (rule : Requires) : Prop where
  prerequisiteKey : IsPlainKey rule.prerequisiteKey
  dependantKey : IsPlainKey rule.dependantKey
  different : rule.prerequisiteKey ≠ rule.dependantKey
  prerequisiteValue : ∀ literal ∈ rule.prerequisiteValue, literal.IsWritable
  dependantValue : ∀ literal ∈ rule.dependantValue, literal.IsWritable

/-- The end of a requirement as it is written. -/
def consequent (rule : Requires) (plain : rule.IsPlain) : Consequent where
  beforeWord := [' ']
  behindWord := [' ']
  side := (rule.dependantKey.toList, rule.dependantValue.map Literal.chars)
  beforeClose := []
  beforeWord_gap := Text.isGap_space
  behindWord_gap := Text.isGap_space
  side_key := plain.dependantKey.isKey
  beforeClose_blank := rfl

/-- A requirement as it is written. -/
def spelling (rule : Requires) (plain : rule.IsPlain) : Spelling where
  behindIf := [' ']
  side := (rule.prerequisiteKey.toList, rule.prerequisiteValue.map Literal.chars)
  consequent := rule.consequent plain
  behindIf_gap := Text.isGap_space
  side_key := plain.prerequisiteKey.isKey

/-- The text of a requirement as it is written. -/
def text (rule : Requires) (plain : rule.IsPlain) : String :=
  String.ofList (rule.spelling plain).chars

variable {rule : Requires}

/-! ## The writer -/

/-- Two different keys and a first literal without a consequent are written part by part. -/
theorem requiresChars_of_free {firstKey secondKey first second : Value}
    (different : Value.same firstKey secondKey = false)
    (free : ∀ content, first = .text content → Draft.embedsConsequent content.toList = false) :
    Draft.requiresChars firstKey secondKey first second =
      (Draft.keyChars firstKey).bind fun key => (Draft.literalChars first).bind fun literal =>
        (Draft.keyChars secondKey).bind fun dependant =>
          (Draft.literalChars second).bind fun dependantLiteral =>
            .ok (Expression.ifWord ++ ' ' :: key ++ literal ++ ' ' :: Expression.thenWord
              ++ ' ' :: dependant ++ dependantLiteral ++ [';']) := by
  unfold Draft.requiresChars
  rw [different]
  cases first with
  | text content =>
    have passes := free content rfl
    simp only [passes]
    rfl
  | _ => rfl

/-- The text of a requirement whose parts can be written and whose first literal holds no
consequent. -/
theorem requiresChars_of_parts {firstKey secondKey first second : Value}
    {key literal dependant dependantLiteral : List Char}
    (different : Value.same firstKey secondKey = false)
    (free : ∀ content, first = .text content → Draft.embedsConsequent content.toList = false)
    (keyRead : Draft.keyChars firstKey = .ok key)
    (literalRead : Draft.literalChars first = .ok literal)
    (dependantRead : Draft.keyChars secondKey = .ok dependant)
    (dependantLiteralRead : Draft.literalChars second = .ok dependantLiteral) :
    Draft.requiresChars firstKey secondKey first second =
      .ok (Expression.ifWord ++ ' ' :: key ++ literal ++ ' ' :: Expression.thenWord
        ++ ' ' :: dependant ++ dependantLiteral ++ [';']) := by
  rw [requiresChars_of_free different free, keyRead, literalRead, dependantRead,
    dependantLiteralRead]
  rfl

/-- A text that holds a consequent is refused before any other part is looked at. -/
theorem requiresChars_of_embedded {firstKey secondKey second : Value} {content : String}
    (different : Value.same firstKey secondKey = false)
    (embeds : Draft.embedsConsequent content.toList = true) :
    Draft.requiresChars firstKey secondKey (.text content) second =
      .error (.embeddedConsequent content) := by
  unfold Draft.requiresChars
  rw [different]
  simp only [embeds]
  rfl

/-- The first literal of a requirement that holds a consequent, if it is a text. -/
def Embeds (rule : Requires) (content : String) : Prop :=
  rule.prerequisiteValue = some (.text content) ∧ HoldsConsequent content.toList

theorem IsPlain.not_same (plain : rule.IsPlain) :
    Value.same (.text rule.prerequisiteKey) (.text rule.dependantKey) = false := by
  rw [Value.same_text]
  exact beq_eq_false_iff_ne.mpr plain.different

theorem text_of_valueOf {value : Option Literal} {content : String}
    (same : Literal.valueOf value = .text content) : value = some (.text content) := by
  cases value with
  | none => exact absurd same (by simp [Literal.valueOf])
  | some literal =>
    cases literal with
    | text other => rw [show other = content from Value.text.inj same]
    | _ => exact absurd same (by simp [Literal.valueOf, Literal.toValue])

theorem write_of_free (plain : rule.IsPlain) (free : ∀ content, ¬ rule.Embeds content) :
    (Dependency.requires rule).write = .ok (rule.text plain) := by
  have passes (content : String) (value : Literal.valueOf rule.prerequisiteValue = .text content) :
      Draft.embedsConsequent content.toList = false := by
    rw [← Bool.not_eq_true, Expression.embedsConsequent_iff]
    exact fun holds => free content ⟨text_of_valueOf value, holds⟩
  have written := requiresChars_of_parts plain.not_same passes
    plain.prerequisiteKey.keyChars (Literal.literalChars_valueOf plain.prerequisiteValue)
    plain.dependantKey.keyChars (Literal.literalChars_valueOf plain.dependantValue)
  have shape : (rule.spelling plain).chars = Expression.ifWord ++ ' ' ::
      rule.prerequisiteKey.toList ++ constraint (rule.prerequisiteValue.map Literal.chars)
        ++ ' ' :: Expression.thenWord ++ ' ' :: rule.dependantKey.toList
        ++ constraint (rule.dependantValue.map Literal.chars) ++ [';'] := by
    simp [spelling, consequent, Spelling.chars, Spelling.behindWord, Spelling.behindKey,
      Consequent.chars, Consequent.behindKey]
  rw [← shape] at written
  exact congrArg (Except.map String.ofList) written

theorem write_of_embeds (plain : rule.IsPlain) {content : String} (embeds : rule.Embeds content) :
    (Dependency.requires rule).write = .error (.embeddedConsequent content) := by
  obtain ⟨value, holds⟩ := embeds
  have refused : Draft.requiresChars (.text rule.prerequisiteKey) (.text rule.dependantKey)
      (.text content) (Literal.valueOf rule.dependantValue) =
        .error (.embeddedConsequent content) :=
    requiresChars_of_embedded plain.not_same
      ((Expression.embedsConsequent_iff content.toList).mpr holds)
  have written : (Dependency.requires rule).write =
      (Draft.requiresChars (.text rule.prerequisiteKey) (.text rule.dependantKey)
        (Literal.valueOf rule.prerequisiteValue) (Literal.valueOf rule.dependantValue)).map
          String.ofList := rfl
  rw [written, value]
  exact congrArg (Except.map String.ofList) refused

/-! ## The reader -/

theorem trim_text (plain : rule.IsPlain) :
    Text.trim (rule.text plain).toList = (rule.spelling plain).chars := by
  rw [text, String.toList_ofList]
  apply Text.trim_eq_self
  · intro c first
    obtain rfl : 'I' = c := by
      simpa [Spelling.chars, Expression.ifWord] using first
    decide
  · intro c last
    obtain ⟨body, close⟩ := (rule.consequent plain).chars_close
    have shape : (rule.spelling plain).chars =
        Expression.ifWord ++ ([' '] ++ (rule.prerequisiteKey.toList ++
          (constraint (rule.prerequisiteValue.map Literal.chars) ++ body))) ++ [';'] := by
      have whole : (rule.spelling plain).chars = Expression.ifWord ++ ([' '] ++
          (rule.prerequisiteKey.toList ++ (constraint (rule.prerequisiteValue.map Literal.chars)
            ++ (rule.consequent plain).chars))) := rfl
      rw [whole, close]
      simp only [List.append_assoc]
    rw [shape, List.getLast?_concat] at last
    obtain rfl : ';' = c := Option.some.inj last
    decide

theorem ofText_of_sides? (plain : rule.IsPlain) {first second : Expression.SideChars}
    (found : Expression.sides? (rule.spelling plain).behindWord = some (first, second)) :
    Expression.ofText (rule.text plain) =
      .requires (Expression.side first) (Expression.side second) := by
  rw [Expression.ofText, trim_text]
  exact Expression.ofTrimmed_eq_requires_iff.mpr ⟨_, first, second, rfl, found, rfl, rfl⟩

/-- A written literal is split whole from the consequent behind it, unless it is a text that holds
a consequent. -/
theorem splitLiteral?_chars {literal : Literal} (writable : literal.IsWritable)
    (free : ∀ content, literal = .text content → ¬ HoldsConsequent content.toList)
    (consequent : Consequent) (space : consequent.beforeWord = [' ']) :
    ∃ second, Expression.splitLiteral? (literal.chars ++ consequent.chars) =
      some (literal.chars, second) := by
  by_cases isText : ∃ content, literal = .text content
  · obtain ⟨content, rfl⟩ := isText
    exact (Expression.splitLiteral?_inQuotes_iff space content.toList).mpr (free content rfl)
  · have solid := Literal.chars_not_blank writable fun content same => isText ⟨content, same⟩
    exact ⟨_, Expression.splitLiteral?_of_no_blank solid (Expression.consequent?_chars consequent)⟩

/-- The first literal of a requirement that holds no consequent is read whole. -/
theorem exists_sides?_of_free (plain : rule.IsPlain) (free : ∀ content, ¬ rule.Embeds content) :
    ∃ second, Expression.sides? (rule.spelling plain).behindWord =
      some ((rule.spelling plain).side, second) := by
  cases value : rule.prerequisiteValue with
  | none =>
    have side : (rule.spelling plain).side = (rule.prerequisiteKey.toList, none) := by
      rw [spelling, value]
      rfl
    exact ⟨_, by rw [Expression.sides?_without_literal (congrArg Prod.snd side), side]⟩
  | some literal =>
    have side : (rule.spelling plain).side = (rule.prerequisiteKey.toList, some literal.chars) := by
      rw [spelling, value]
      rfl
    obtain ⟨second, split⟩ := splitLiteral?_chars (plain.prerequisiteValue literal value)
      (fun content same holds => free content ⟨by rw [value, same], holds⟩)
      (rule.consequent plain) rfl
    refine ⟨second, ?_⟩
    rw [Expression.sides?_with_literal (congrArg Prod.snd side), side]
    exact congrArg (Option.map _) split

/-- A side of a requirement as it is written. -/
def writtenSide (key : String) (value : Option Literal) : Side :=
  ⟨key, value.map fun literal => String.ofList literal.chars⟩

theorem side_written (key : String) (value : Option Literal) :
    Expression.side (key.toList, value.map Literal.chars) = writtenSide key value := by
  simp [Expression.side, writtenSide, Function.comp_def]

/-- A requirement that is not refused is read with the sides that were written. -/
theorem ofText_of_free (plain : rule.IsPlain) (free : ∀ content, ¬ rule.Embeds content) :
    Expression.ofText (rule.text plain) =
      .requires (writtenSide rule.prerequisiteKey rule.prerequisiteValue)
        (writtenSide rule.dependantKey rule.dependantValue) := by
  obtain ⟨second, read⟩ := exists_sides?_of_free plain free
  obtain ⟨first', second', read', -, -, agrees⟩ := Expression.exists_sides? (rule.spelling plain)
  rw [read] at read'
  obtain ⟨rfl, rfl⟩ := Prod.mk.inj (Option.some.inj read')
  have whole : second = (rule.dependantKey.toList, rule.dependantValue.map Literal.chars) := by
    rw [agrees rfl]
    exact Prod.ext rfl (Literal.trimEnd_map_chars plain.dependantValue)
  rw [ofText_of_sides? plain read, whole, side_written]
  exact congrArg (Expression.requires · _) (side_written _ _)

/-- A requirement that is refused would be read with another first literal. -/
theorem exists_ofText_of_embeds (plain : rule.IsPlain) {content : String}
    (embeds : rule.Embeds content) :
    ∃ literal second, Expression.ofText (rule.text plain) =
      .requires ⟨rule.prerequisiteKey, some literal⟩ second ∧
        literal.toList ≠ inQuotes content.toList := by
  obtain ⟨value, holds⟩ := embeds
  have side : (rule.spelling plain).side =
      (rule.prerequisiteKey.toList, some (inQuotes content.toList)) := by
    rw [spelling, value]
    rfl
  have read := Expression.sides?_with_literal (congrArg Prod.snd side)
  obtain ⟨literal, second, split, -, -⟩ := Expression.exists_splitLiteral?
    (Expression.consequent?_chars (rule.spelling plain).consequent) (inQuotes content.toList)
  rw [split, side] at read
  refine ⟨String.ofList literal, Expression.side second, ?_, fun whole => ?_⟩
  · rw [ofText_of_sides? plain read]
    simp [Expression.side]
  · rw [String.toList_ofList] at whole
    rw [whole] at split
    exact (Expression.splitLiteral?_inQuotes_iff rfl content.toList).mp ⟨second, split⟩ holds

theorem ofList_inQuotes (content : String) :
    String.ofList (inQuotes content.toList) = "'" ++ content ++ "'" := by
  rw [← String.toList_inj]
  simp [inQuotes]

/-- The text of a requirement whose first literal is a text, put together from its parts. -/
theorem text_eq_append {first second content : String} {value : Option Literal}
    (plain : IsPlain ⟨first, some (.text content), second, value⟩) :
    Requires.text ⟨first, some (.text content), second, value⟩ plain =
      "IF " ++ first ++ "==" ++ ("'" ++ content ++ "'") ++ " THEN " ++ second
        ++ String.ofList (constraint (value.map Literal.chars)) ++ ";" := by
  rw [← String.toList_inj]
  simp [Requires.text, spelling, consequent, Spelling.chars, Spelling.behindWord,
    Spelling.behindKey, Consequent.chars, Consequent.behindKey, constraint, Literal.chars,
    inQuotes, Expression.ifWord, Expression.thenWord, Expression.equalsSign]

/-- The literal of a side is what stands behind the sign. -/
theorem writtenSide_of_constraint (key : String) (value : Option Literal) :
    (⟨key, value.map fun _ => String.ofList ((constraint (value.map Literal.chars)).drop 2)⟩ : Side)
      = writtenSide key value := by
  cases value <;> rfl

/-- **The refusal of a literal that holds a consequent is exact.**  With accepted keys, a text that
is not blank and a second literal that can be written, the text of the requirement is read with the
same two sides exactly when the requirement is written, and it is what is written.  A refused
requirement is refused for its first literal and would be read with another one. -/
theorem write_iff_read_back (first second content : String) (value : Option Literal)
    (rendering : List Char) (firstKey : Draft.keyChars (.text first) = .ok first.toList)
    (secondKey : Draft.keyChars (.text second) = .ok second.toList) (different : first ≠ second)
    (shown : Text.allBlank content.toList = false)
    (rendered : Draft.literalChars (Literal.valueOf value) = .ok rendering) :
    let rule : Dependency := .requires ⟨first, some (.text content), second, value⟩
    let quoted := "'" ++ content ++ "'"
    let text := "IF " ++ first ++ "==" ++ quoted ++ " THEN " ++ second
      ++ String.ofList rendering ++ ";"
    (Expression.ofText text = .requires ⟨first, some quoted⟩
        ⟨second, value.map fun _ => String.ofList (rendering.drop 2)⟩ ↔
      ∃ composed, rule.write = .ok composed) ∧
    (∀ composed, rule.write = .ok composed → composed = text) ∧
    (∀ fault, rule.write = .error fault → fault = .embeddedConsequent content ∧
      ∃ literal side, Expression.ofText text = .requires ⟨first, some literal⟩ side ∧
        literal ≠ quoted) := by
  intro rule quoted text
  let requirement : Requires := ⟨first, some (.text content), second, value⟩
  have writable := Literal.isWritable_of_literalChars rendered
  have plain : requirement.IsPlain := ⟨isPlainKey_of_keyChars firstKey,
    isPlainKey_of_keyChars secondKey, different, by rintro literal ⟨⟩; exact shown, writable⟩
  obtain rfl : constraint (value.map Literal.chars) = rendering :=
    Except.ok.inj ((Literal.literalChars_valueOf writable).symm.trans rendered)
  have quotedChars : String.ofList (inQuotes content.toList) = quoted := ofList_inQuotes content
  have same : text = requirement.text plain := (text_eq_append plain).symm
  rw [same, writtenSide_of_constraint]
  by_cases embeds : requirement.Embeds content
  · have refused := write_of_embeds plain embeds
    obtain ⟨literal, other, read, differs⟩ := exists_ofText_of_embeds plain embeds
    have unequal : literal ≠ quoted := fun whole =>
      differs (by rw [whole, ← quotedChars, String.toList_ofList])
    refine ⟨⟨fun whole => ?_, ?_⟩, ?_, ?_⟩
    · rw [read] at whole
      have sides := congrArg Side.literal (Expression.requires.inj whole).1
      exact absurd (Option.some.inj sides) unequal
    · rintro ⟨composed, written⟩
      exact absurd (written.symm.trans refused) (by simp)
    · intro composed written
      exact absurd (written.symm.trans refused) (by simp)
    · intro fault failed
      have cause := Except.error.inj (failed.symm.trans refused)
      exact ⟨cause, literal, other, read, unequal⟩
  · have free (other : String) : ¬ requirement.Embeds other := by
      rintro ⟨value, holds⟩
      obtain rfl : content = other := by simpa [requirement] using value
      exact embeds ⟨value, holds⟩
    have written := write_of_free plain free
    have read := ofText_of_free plain free
    refine ⟨⟨fun _ => ⟨_, written⟩, fun _ => ?_⟩, ?_, ?_⟩
    · rw [read, ← quotedChars]
      rfl
    · intro composed also
      exact Except.ok.inj (also.symm.trans written)
    · intro fault failed
      exact absurd (failed.symm.trans written) (by simp)

/-- A text with the word and a semicolon in it is no consequent without a sign. -/
theorem read_back_of_word_in_text :
    (Draft.keyChars (.text "a") = .ok ['a'] ∧ Draft.keyChars (.text "b") = .ok ['b'] ∧
      "a" ≠ "b" ∧ Text.allBlank "x THEN y;".toList = false ∧
      Draft.literalChars (Literal.valueOf (some (.int 7))) = .ok ['=', '=', '7']) ∧
    (Expression.ofText "IF a=='x THEN y;' THEN b==7;" =
        .requires ⟨"a", some "'x THEN y;'"⟩ ⟨"b", some "7"⟩ ↔
      ∃ composed, (Dependency.requires
        ⟨"a", some (.text "x THEN y;"), "b", some (.int 7)⟩).write = .ok composed) :=
  ⟨⟨rfl, rfl, by decide, by decide, rfl⟩,
    (write_iff_read_back "a" "b" "x THEN y;" (some (.int 7)) ['=', '=', '7'] rfl rfl (by decide)
      (by decide) rfl).1⟩

end Requires

end FieldRules
