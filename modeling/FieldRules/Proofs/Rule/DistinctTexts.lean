import FieldRules.Proofs.Rule.WrittenAgain

/-!
# Different rules have different texts

The text of a draft tells which rule was written, whatever schema it is meant for.
A draft that is written has plain keys and literals with a written form, and its
text is recognised as these keys and these forms (`Draft.spells_of_write`).

The form of a literal tells the literal without the type of its property
(`Literal.chars_inj`): a text is in quotes, a number is read as that number, and
the words for the truth values are neither.  So two drafts with one text have the
same keys and the same values (`Draft.Spells.sameRule`).  The name of a group is not
written, and nothing else is lost.
-/

set_option autoImplicit false

namespace FieldRules

open Expression (inQuotes)

/-! ## The forms of literals -/

namespace Literal

/-- The literal with a written form, found without the type of its property: a number if the text is
one, else a truth value if it is a word for one, else the text in quotes. -/
def ofForm? (s : List Char) : Option Literal :=
  match readNumber s with
  | .ok (some literal) => some literal
  | _ => (readBool s).or (readText s)

/-- A text in quotes is no number. -/
theorem readNumber_inQuotes (content : List Char) : readNumber (inQuotes content) = .ok none := by
  unfold readNumber
  rw [trim_inQuotes]
  rfl

/-- A text in quotes is no word for a truth value. -/
theorem readBool_inQuotes (content : List Char) : readBool (inQuotes content) = none := by
  unfold readBool
  rw [trim_inQuotes]
  rfl

/-- A written form tells its literal. -/
theorem ofForm?_chars {literal : Literal} (writable : literal.IsWritable) :
    ofForm? literal.chars = some literal := by
  cases literal with
  | bool truth => cases truth <;> decide
  | int number => rw [chars, ofForm?, readNumber_integerChars writable]
  | float number => rw [chars, ofForm?, readNumber_chars writable]
  | text content =>
    rw [chars, ofForm?, readNumber_inQuotes, readBool_inQuotes, readText_inQuotes writable]
    rfl

/-- **Different literals have different written forms.** -/
theorem chars_inj {left right : Literal} (leftWritable : left.IsWritable)
    (rightWritable : right.IsWritable) (same : left.chars = right.chars) : left = right := by
  have back := ofForm?_chars leftWritable
  rw [same, ofForm?_chars rightWritable] at back
  exact (Option.some.inj back).symm

theorem map_chars_inj {left right : Option Literal} (leftWritable : ∀ l ∈ left, l.IsWritable)
    (rightWritable : ∀ l ∈ right, l.IsWritable)
    (same : left.map (fun l => String.ofList l.chars) = right.map fun l => String.ofList l.chars) :
    left = right := by
  cases left with
  | none => exact (Option.map_eq_none_iff.mp same.symm).symm
  | some first =>
    obtain ⟨second, rfl, forms⟩ := Option.map_eq_some_iff.mp same.symm
    have chars : first.chars = second.chars := String.ofList_injective forms.symm
    rw [chars_inj (leftWritable first rfl) (rightWritable second rfl) chars]

end Literal

/-! ## What a written draft is made of -/

namespace Draft

theorem exists_key_of_keyChars {key : Value} {chars : List Char} (read : keyChars key = .ok chars) :
    ∃ content, key = .text content ∧ IsPlainKey content := by
  cases key with
  | text content => exact ⟨content, rfl, (keyChars_eq_ok_iff.mp read).1⟩
  | _ => exact absurd read (by simp [keyChars])

theorem exists_literal_of_literalChars {value : Value} {rendering : List Char}
    (rendered : literalChars value = .ok rendering) :
    ∃ literal, value = Literal.valueOf literal ∧ ∀ l ∈ literal, l.IsWritable := by
  have found : ∃ literal, value = Literal.valueOf literal := by
    cases value with
    | null => exact ⟨none, rfl⟩
    | bool truth => exact ⟨some (.bool truth), rfl⟩
    | int number => exact ⟨some (.int number), rfl⟩
    | float number => exact ⟨some (.float number), rfl⟩
    | text content => exact ⟨some (.text content), rfl⟩
    | _ => exact absurd rendered (by simp [literalChars])
  obtain ⟨literal, rfl⟩ := found
  exact ⟨literal, rfl, Literal.isWritable_of_literalChars rendered⟩

theorem exists_names_of_keysChars {kind : ListKind} {keys : List Value} {chars : List Char}
    (written : keysChars kind keys = .ok chars) : ∃ names : List String, keys = names.map .text := by
  rw [keysChars_of_enough (le_length_of_keysChars written)] at written
  obtain ⟨read, parts, -⟩ := Traversal.exists_of_map_eq_ok written
  -- Only texts are accepted as keys, so each key is the text of its own content.
  have texts : ∀ key ∈ keys, Value.text (key.asText?.getD "") = key := by
    intro key member
    obtain ⟨chars, accepted⟩ := Traversal.exists_mapM_eq_ok_iff.mp ⟨read, parts⟩ key member
    obtain ⟨content, rfl, -⟩ := exists_key_of_keyChars accepted
    rfl
  refine ⟨keys.map fun key => key.asText?.getD "", ?_⟩
  rw [List.map_map]
  exact ((List.map_congr_left texts).trans (List.map_id' keys)).symm

/-- Keys that are written are plain texts. -/
theorem exists_keys_of_keysChars {kind : ListKind} {keys : List Value} {chars : List Char}
    (written : keysChars kind keys = .ok chars) :
    ∃ names, keys = names.map Value.text ∧ kind.minimum ≤ names.length ∧
      (∀ name ∈ names, IsPlainKey name) ∧ chars = writtenKeys kind names := by
  obtain ⟨names, rfl⟩ := exists_names_of_keysChars written
  exact ⟨names, rfl, keysChars_eq_ok_iff.mp written⟩

/-- The two refusals that protect a requirement do not hold of one that is written. -/
theorem passes_of_requiresChars {firstKey secondKey first second : Value} {chars : List Char}
    (written : requiresChars firstKey secondKey first second = .ok chars) :
    Value.same firstKey secondKey = false ∧
      ∀ content, first = .text content → embedsConsequent content.toList = false := by
  have different : Value.same firstKey secondKey = false := by
    by_contra equal
    rw [Bool.not_eq_false] at equal
    unfold requiresChars at written
    rw [equal] at written
    exact absurd written (by simp [bind, Except.bind, throw, throwThe, MonadExceptOf.throw])
  refine ⟨different, ?_⟩
  rintro content rfl
  by_contra embeds
  rw [Bool.not_eq_false] at embeds
  have refused : requiresChars firstKey secondKey (.text content) second =
      .error (.embeddedConsequent content) :=
    Requires.requiresChars_of_embedded different embeds
  exact absurd (refused.symm.trans written) (by simp)

/-- A requirement that is written has plain keys, literals with a written form, and a first literal
without a consequent. -/
theorem exists_rule_of_requiresChars {firstKey secondKey first second : Value} {chars : List Char}
    (written : requiresChars firstKey secondKey first second = .ok chars) :
    ∃ rule : Requires, rule.IsPlain ∧ (∀ content, ¬ rule.Embeds content) ∧
      firstKey = .text rule.prerequisiteKey ∧ secondKey = .text rule.dependantKey ∧
      first = Literal.valueOf rule.prerequisiteValue ∧
      second = Literal.valueOf rule.dependantValue := by
  obtain ⟨different, free⟩ := passes_of_requiresChars written
  rw [Requires.requiresChars_of_free different free] at written
  obtain ⟨key, keyRead, written⟩ := Traversal.exists_of_bind_eq_ok written
  obtain ⟨form, formRead, written⟩ := Traversal.exists_of_bind_eq_ok written
  obtain ⟨dependant, dependantRead, written⟩ := Traversal.exists_of_bind_eq_ok written
  obtain ⟨dependantForm, dependantFormRead, -⟩ := Traversal.exists_of_bind_eq_ok written
  obtain ⟨firstName, rfl, firstPlain⟩ := exists_key_of_keyChars keyRead
  obtain ⟨secondName, rfl, secondPlain⟩ := exists_key_of_keyChars dependantRead
  obtain ⟨firstValue, rfl, firstWritable⟩ := exists_literal_of_literalChars formRead
  obtain ⟨secondValue, rfl, secondWritable⟩ := exists_literal_of_literalChars dependantFormRead
  refine ⟨⟨firstName, firstValue, secondName, secondValue⟩, ?_, ?_, rfl, rfl, rfl, rfl⟩
  · rw [Value.same_text, beq_eq_false_iff_ne] at different
    exact ⟨firstPlain, secondPlain, different, firstWritable, secondWritable⟩
  · rintro content ⟨rfl, holds⟩
    have passes := free content rfl
    rw [← Bool.not_eq_true, Expression.embedsConsequent_iff] at passes
    exact passes holds

/-! ## What a text tells of its draft -/

/-- Two drafts of one rule: the same keys in the same order and, for requirements, the same values.
The names of two groups may differ. -/
inductive SameRule : Draft → Draft → Prop where
  | requires (prerequisiteKey dependantKey prerequisiteValue dependantValue : Value) :
      SameRule (.requires prerequisiteKey dependantKey prerequisiteValue dependantValue)
        (.requires prerequisiteKey dependantKey prerequisiteValue dependantValue)
  | onlyOne (keys : List Value) : SameRule (.onlyOne keys) (.onlyOne keys)
  | group (name other : Value) (keys : List Value) : SameRule (.group name keys) (.group other keys)

/-- A draft that can be written, and what its text is recognised as. -/
inductive Spells : Draft → Expression → Prop where
  | requires (rule : Requires) (plain : rule.IsPlain) :
      Spells (Dependency.requires rule).toDraft
        (.requires (Requires.writtenSide rule.prerequisiteKey rule.prerequisiteValue)
          (Requires.writtenSide rule.dependantKey rule.dependantValue))
  | onlyOne (keys : List String) : Spells (.onlyOne (keys.map .text)) (.keys .onlyOne keys)
  | group (name : Value) (keys : List String) :
      Spells (.group name (keys.map .text)) (.keys .group keys)

theorem SameRule.write_eq {left right : Draft} (same : left.SameRule right) :
    left.write = right.write := by
  cases same with
  | requires => rfl
  | onlyOne => rfl
  | group => rfl

/-- **The text of a draft is recognised as the parts that were written.** -/
theorem spells_of_write {draft : Draft} {text : String} (written : draft.write = .ok text) :
    draft.Spells (Expression.ofText text) := by
  cases draft with
  | requires firstKey secondKey first second =>
    obtain ⟨chars, parts, -⟩ := Traversal.exists_of_map_eq_ok written
    obtain ⟨rule, plain, free, rfl, rfl, rfl, rfl⟩ := exists_rule_of_requiresChars parts
    have whole : (Dependency.requires rule).write = .ok text := written
    obtain rfl := Except.ok.inj ((Requires.write_of_free plain free).symm.trans whole)
    rw [Requires.ofText_of_free plain free]
    exact .requires rule plain
  | onlyOne keys =>
    obtain ⟨chars, parts, rfl⟩ := Traversal.exists_of_map_eq_ok written
    obtain ⟨names, rfl, enough, plain, rfl⟩ := exists_keys_of_keysChars parts
    rw [Expression.ofText_writtenKeys (Schema.ne_nil_of_minimum enough) plain]
    exact .onlyOne names
  | group name keys =>
    obtain ⟨chars, parts, rfl⟩ := Traversal.exists_of_map_eq_ok written
    obtain ⟨names, rfl, enough, plain, rfl⟩ := exists_keys_of_keysChars parts
    rw [Expression.ofText_writtenKeys (Schema.ne_nil_of_minimum enough) plain]
    exact .group name names
  | other value => exact absurd written (by simp [Draft.write, Except.map])

/-- Drafts whose texts are recognised as one expression are drafts of one rule. -/
theorem Spells.sameRule {left right : Draft} {first second : Expression}
    (leftSpells : left.Spells first) (rightSpells : right.Spells second) (same : first = second) :
    left.SameRule right := by
  cases leftSpells with
  | requires rule plain =>
    cases rightSpells with
    | requires other otherPlain =>
      obtain ⟨firstSide, secondSide⟩ := Expression.requires.inj same
      obtain ⟨firstKey, firstForm⟩ := Side.mk.inj firstSide
      obtain ⟨secondKey, secondForm⟩ := Side.mk.inj secondSide
      have firstValue := Literal.map_chars_inj plain.prerequisiteValue otherPlain.prerequisiteValue
        firstForm
      have secondValue := Literal.map_chars_inj plain.dependantValue otherPlain.dependantValue
        secondForm
      obtain rfl : rule = other := by
        cases rule
        cases other
        rw [Requires.mk.injEq]
        exact ⟨firstKey, firstValue, secondKey, secondValue⟩
      exact .requires _ _ _ _
    | onlyOne | group => exact absurd same (by simp)
  | onlyOne keys =>
    cases rightSpells with
    | onlyOne others =>
      rw [(Expression.keys.inj same).2]
      exact .onlyOne _
    | requires | group => exact absurd same (by simp)
  | group name keys =>
    cases rightSpells with
    | group other others =>
      rw [(Expression.keys.inj same).2]
      exact .group name other _
    | requires | onlyOne => exact absurd same (by simp)

end Draft

/-! ## The operation -/

namespace Unchecked

/-- **Two drafts that are written have one text exactly when they are drafts of one rule.** -/
theorem texts_eq_iff_sameRule (left right : Draft) (leftText rightText : String)
    (leftWritten : (write left).result = .ok leftText)
    (rightWritten : (write right).result = .ok rightText) :
    leftText = rightText ↔ left.SameRule right := by
  have first := result_write_eq_ok_iff.mp leftWritten
  have second := result_write_eq_ok_iff.mp rightWritten
  constructor
  · intro same
    exact (Draft.spells_of_write first).sameRule (Draft.spells_of_write second)
      (congrArg Expression.ofText same)
  · intro same
    exact Except.ok.inj (first.symm.trans (same.write_eq.trans second))

/-- The truth value and the word for it. -/
theorem distinct_texts_of_truth_and_word :
    (write (.requires (.text "a") (.text "b") .null (.bool true))).result =
        .ok "IF a THEN b==true;" ∧
      (write (.requires (.text "a") (.text "b") .null (.text "true"))).result =
        .ok "IF a THEN b==\x27true\x27;" ∧
      ("IF a THEN b==true;" = "IF a THEN b==\x27true\x27;" ↔
        Draft.SameRule (.requires (.text "a") (.text "b") .null (.bool true))
          (.requires (.text "a") (.text "b") .null (.text "true"))) := by
  have truth : (write (.requires (.text "a") (.text "b") .null (.bool true))).result =
      .ok "IF a THEN b==true;" := by
    rw [result_write, Draft.write, Requires.requiresChars_of_free (by simp) (by simp)]
    rfl
  have word : (write (.requires (.text "a") (.text "b") .null (.text "true"))).result =
      .ok "IF a THEN b==\x27true\x27;" := by
    rw [result_write, Draft.write, Requires.requiresChars_of_free (by simp) (by simp)]
    rfl
  exact ⟨truth, word, texts_eq_iff_sameRule _ _ _ _ truth word⟩

end Unchecked

end FieldRules
