import FieldRules.Proofs.Rule.RequiresGrammar
import FieldRules.Rule.Writing

/-!
# Consequents inside a literal

A quoted literal of the prerequisite side ends too early when the reader finds a
consequent that starts inside it.  Two tests have to agree on this.  The writer
looks into the literal alone, for the word between the sides, a key and the sign
(`embedsConsequent_iff`).  The reader looks for a consequent that reaches from
inside the literal to the end of the whole text.

A consequent of the reader may use the closing quote and the text behind it.
That never helps: the quote is followed by a blank and the word, so a key that
takes in the quote has no sign behind it and no end of the text either
(`holdsConsequent_of_chars`).
-/

set_option autoImplicit false

namespace FieldRules.Expression

/-! ## The test of the writer -/

/-- A text that holds a blank, the word between the sides, blanks, a key and the sign. -/
def HoldsConsequent (s : List Char) : Prop :=
  ∃ front blank gap key back, Text.isBlank blank = true ∧ Text.IsGap gap ∧ IsKey key ∧
    s = front ++ (blank :: (thenWord ++ (gap ++ (key ++ (equalsSign ++ back)))))

theorem HoldsConsequent.append_left {s : List Char} (front : List Char)
    (holds : HoldsConsequent s) : HoldsConsequent (front ++ s) := by
  obtain ⟨front', blank, gap, key, back, isBlank, isGap, isKey, rfl⟩ := holds
  exact ⟨front ++ front', blank, gap, key, back, isBlank, isGap, isKey, by
    rw [List.append_assoc]⟩

theorem HoldsConsequent.append_right {s : List Char} (back : List Char)
    (holds : HoldsConsequent s) : HoldsConsequent (s ++ back) := by
  obtain ⟨front, blank, gap, key, back', isBlank, isGap, isKey, rfl⟩ := holds
  exact ⟨front, blank, gap, key, back' ++ back, isBlank, isGap, isKey, by simp⟩

/-- A text holds the consequents of its parts. -/
theorem HoldsConsequent.of_part {s whole : List Char} (holds : HoldsConsequent s)
    (part : s <:+: whole) : HoldsConsequent whole := by
  obtain ⟨front, back, rfl⟩ := part
  exact (holds.append_left front).append_right back

theorem startsConsequent_iff (s : List Char) :
    Draft.startsConsequent s = true ↔
      ∃ blank gap key back, Text.isBlank blank = true ∧ Text.IsGap gap ∧ IsKey key ∧
        s = blank :: (thenWord ++ (gap ++ (key ++ (equalsSign ++ back)))) := by
  constructor
  · intro starts
    cases s with
    | nil => exact absurd starts (by simp [Draft.startsConsequent])
    | cons c s =>
      simp only [Draft.startsConsequent, Option.bind_eq_bind, Bool.and_eq_true,
        Option.isSome_iff_exists, Option.bind_eq_some_iff, Prod.exists] at starts
      obtain ⟨blank, back, behindWord, word, opening, blanks, key, rest, keyFound, sign⟩ := starts
      obtain ⟨gap, isGap, gapShape⟩ := gap_of_afterBlanks? blanks
      obtain ⟨isKey, keyShape⟩ := isKey_of_key? keyFound
      refine ⟨c, gap, key, back, blank, isGap, isKey, ?_⟩
      rw [after?_eq_some_iff.mp word, gapShape, keyShape, after?_eq_some_iff.mp sign]
  · rintro ⟨blank, gap, key, back, isBlank, isGap, isKey, rfl⟩
    have stop : ∀ c ∈ (equalsSign ++ back).head?, isKeyChar c = false :=
      Text.forall_mem_head?_cons (by decide) _
    have opening := afterBlanks?_gap isGap (isKey.head_not_blank (equalsSign ++ back))
    simp [Draft.startsConsequent, isBlank, after?_append, opening, key?_append isKey stop]

/-- The writer finds a consequent in a text exactly when the text holds one. -/
theorem embedsConsequent_iff (s : List Char) :
    Draft.embedsConsequent s = true ↔ HoldsConsequent s := by
  induction s with
  | nil =>
    refine ⟨fun embeds => absurd embeds (by simp [Draft.embedsConsequent]), ?_⟩
    rintro ⟨front, blank, gap, key, back, -, -, -, shape⟩
    exact absurd (List.append_eq_nil_iff.mp shape.symm).2 (by simp)
  | cons c s ih =>
    rw [Draft.embedsConsequent, Bool.or_eq_true, startsConsequent_iff, ih]
    constructor
    · rintro (⟨blank, gap, key, back, isBlank, isGap, isKey, shape⟩ | holds)
      · exact ⟨[], blank, gap, key, back, isBlank, isGap, isKey, shape⟩
      · exact holds.append_left [c]
    · rintro ⟨front, blank, gap, key, back, isBlank, isGap, isKey, shape⟩
      cases front with
      | nil => exact .inl ⟨blank, gap, key, back, isBlank, isGap, isKey, shape⟩
      | cons d front =>
        obtain ⟨rfl, behind⟩ := List.cons.inj shape
        exact .inr ⟨front, blank, gap, key, back, isBlank, isGap, isKey, behind⟩

/-! ## The test of the reader -/

/-- A text that starts with a consequent up to its sign is read as one, whatever the rest, if it is
closed by a semicolon. -/
theorem consequent?_of_sign {blank : Char} {gap key : List Char}
    (isBlank : Text.isBlank blank = true) (isGap : Text.IsGap gap) (isKey : IsKey key)
    (back : List Char) :
    consequent? (blank :: (thenWord ++ (gap ++ (key ++ (equalsSign ++ (back ++ [';'])))))) =
      some (key, some (Text.trimEnd back)) := by
  have oneBlank : Text.IsGap [blank] := ⟨by simp, by simp [Text.allBlank, isBlank]⟩
  have read := consequent?_chars ⟨[blank], gap, (key, some back), [], oneBlank, isGap, isKey, rfl⟩
  simpa [Consequent.chars, Consequent.behindKey, constraint] using read

/-- A word that does not hold a character ends in front of that character. -/
theorem append_eq_append_cons {word rest s more : List Char} {stop : Char}
    (shape : word ++ rest = s ++ stop :: more) (outside : stop ∉ word) :
    ∃ tail, s = word ++ tail ∧ rest = tail ++ stop :: more := by
  rcases List.append_eq_append_iff.mp shape with
    ⟨tail, sShape, restShape⟩ | ⟨tail, wordShape, stopShape⟩
  · exact ⟨tail, sShape, restShape⟩
  · cases tail with
    | nil =>
      refine ⟨[], by simpa using wordShape.symm, by simpa using stopShape.symm⟩
    | cons c tail =>
      have same : stop = c := (List.cons.inj stopShape).1
      exact absurd (by rw [wordShape, same]; simp) outside

theorem not_mem_of_gap {gap : List Char} (isGap : Text.IsGap gap) {c : Char}
    (other : Text.isBlank c = false) : c ∉ gap := by
  intro member
  rw [(Text.allBlank_iff gap).mp isGap.2 c member] at other
  exact absurd other (by simp)

/-- Blanks and a semicolon hold no other character. -/
theorem not_mem_close {close : List Char} (blank : Text.allBlank close = true) {c : Char}
    (other : Text.isBlank c = false) (noClose : c ≠ ';') : c ∉ close ++ [';'] := by
  intro member
  rcases List.mem_append.mp member with inside | last
  · rw [(Text.allBlank_iff close).mp blank c inside] at other
    exact absurd other (by simp)
  · exact noClose (List.mem_singleton.mp last)

/-- A side that starts in front of a quote and ends the text behind it has its sign in front of the
quote, if behind the quote stand a blank and the first character of the word. -/
theorem sign_before_quote {key close s more : List Char} {literal : Option (List Char)}
    (isKey : IsKey key) (blank : Text.allBlank close = true)
    (shape : key ++ (constraint literal ++ (close ++ [';'])) = s ++ '\x27' :: ' ' :: 'T' :: more) :
    ∃ back, s = key ++ (equalsSign ++ back) := by
  -- The key holds no blank, so it ends in front of the blank behind the quote.
  have noBlank : ' ' ∉ key := fun member => absurd (isKey.2 ' ' member) (by decide)
  have atBlank : key ++ (constraint literal ++ (close ++ [';'])) =
      (s ++ ['\x27']) ++ ' ' :: 'T' :: more := by
    rw [shape, List.append_assoc]
    rfl
  obtain ⟨tail, keyShape, tailShape⟩ := append_eq_append_cons atBlank noBlank
  rcases List.eq_nil_or_concat tail with rfl | ⟨tail, last, rfl⟩
  · -- The key takes in the quote, and what follows is neither the sign nor the end.
    cases literal with
    | some content =>
      exact absurd (congrArg List.head? tailShape) (by simp [constraint, equalsSign])
    | none =>
      have whole : close ++ [';'] = [' '] ++ 'T' :: more := tailShape
      refine absurd ?_ (not_mem_close blank (c := 'T') (by decide) (by decide))
      rw [whole]
      simp
  · -- The quote stands behind the key, so it belongs to the literal.
    rw [List.concat_eq_append, ← List.append_assoc] at keyShape
    obtain ⟨rfl, sameLast⟩ := List.append_inj' keyShape rfl
    obtain rfl : '\x27' = last := by simpa using sameLast
    rw [List.concat_eq_append, List.append_assoc] at tailShape
    cases literal with
    | none =>
      have whole : close ++ [';'] = tail ++ (['\x27'] ++ ' ' :: 'T' :: more) := tailShape
      refine absurd ?_ (not_mem_close blank (c := '\x27') (by decide) (by decide))
      rw [whole]
      simp
    | some content =>
      rw [constraint, List.append_assoc] at tailShape
      have noQuote : '\x27' ∉ equalsSign := by decide
      obtain ⟨back, rfl, -⟩ := append_eq_append_cons tailShape noQuote
      exact ⟨back, rfl⟩

/-- A text in front of a quote holds a consequent if one is spelled from the start of the text to
the end of what stands behind the quote. -/
theorem holdsConsequent_of_chars {consequent : Consequent} {s more : List Char}
    (shape : consequent.chars = s ++ '\x27' :: ' ' :: 'T' :: more) : HoldsConsequent s := by
  have noQuote {gap : List Char} (isGap : Text.IsGap gap) : '\x27' ∉ gap :=
    not_mem_of_gap isGap (by decide)
  -- None of the parts up to the key holds the quote, so each lies in front of it.
  obtain ⟨s₁, rfl, shape₁⟩ := append_eq_append_cons shape (noQuote consequent.beforeWord_gap)
  have noQuoteWord : '\x27' ∉ thenWord := by decide
  obtain ⟨s₂, rfl, shape₂⟩ := append_eq_append_cons shape₁ noQuoteWord
  obtain ⟨s₃, rfl, shape₃⟩ := append_eq_append_cons shape₂ (noQuote consequent.behindWord_gap)
  obtain ⟨back, rfl⟩ :=
    sign_before_quote consequent.side_key consequent.beforeClose_blank shape₃
  obtain ⟨front, blank, split, isBlank⟩ := consequent.beforeWord_gap.split
  refine ⟨front, blank, consequent.behindWord, consequent.side.1, back, isBlank,
    consequent.behindWord_gap, consequent.side_key, ?_⟩
  rw [split, List.append_assoc]
  rfl

/-! ## Literals that are read whole -/

/-- No consequent is read where no blank stands. -/
theorem consequent?_eq_none {s : List Char} (start : ∀ c ∈ s.head?, Text.isBlank c = false) :
    consequent? s = none := by
  cases s with
  | nil => rfl
  | cons c s =>
    have notBlank : Text.isBlank c = false := start c rfl
    simp [consequent?, afterBlanks?, notBlank]

/-- A literal without blanks is read whole. -/
theorem splitLiteral?_of_no_blank {literal rest : List Char} {side : SideChars}
    (solid : ∀ c ∈ literal, Text.isBlank c = false) (read : consequent? rest = some side) :
    splitLiteral? (literal ++ rest) = some (literal, side) := by
  refine splitLiteral?_eq_some_iff.mpr ⟨rest, rfl, read, fun front back cut nonempty => ?_⟩
  apply consequent?_eq_none
  intro c first
  cases back with
  | nil => exact absurd rfl nonempty
  | cons d back =>
    have same : d = c := by simpa using first
    exact solid c (by rw [cut, same]; simp)

/-- A text between the quotes of the writer. -/
def inQuotes (s : List Char) : List Char := '\x27' :: (s ++ ['\x27'])

/-- A proper end of a quoted text is the whole of it, or an end of the text and the quote. -/
theorem inQuotes_eq_append {s front back : List Char} (cut : inQuotes s = front ++ back)
    (nonempty : back ≠ []) :
    back = inQuotes s ∨ ∃ front' back', s = front' ++ back' ∧ back = back' ++ ['\x27'] := by
  cases front with
  | nil => exact .inl cut.symm
  | cons c front =>
    right
    have behind : s ++ ['\x27'] = front ++ back := (List.cons.inj cut).2
    obtain rfl | ⟨back, last, rfl⟩ := List.eq_nil_or_concat back
    · exact absurd rfl nonempty
    · rw [List.concat_eq_append, ← List.append_assoc] at behind
      obtain ⟨split, sameLast⟩ := List.append_inj' behind rfl
      exact ⟨front, back, split, by rw [List.concat_eq_append, sameLast]⟩

/-- The text of a consequent behind a single blank. -/
theorem Consequent.chars_of_space {consequent : Consequent}
    (space : consequent.beforeWord = [' ']) :
    ∃ more, consequent.chars = ' ' :: 'T' :: more :=
  ⟨_, by rw [Consequent.chars, space]; rfl⟩

theorem Consequent.chars_close (consequent : Consequent) :
    ∃ body, consequent.chars = body ++ [';'] := by
  refine ⟨consequent.beforeWord ++ (thenWord ++ (consequent.behindWord ++ (consequent.side.1 ++
    (constraint consequent.side.2 ++ consequent.beforeClose)))), ?_⟩
  simp only [Consequent.chars, Consequent.behindKey, List.append_assoc]

/-- **The first literal that is read holds no consequent.** -/
theorem not_holdsConsequent_of_splitLiteral? {s literal : List Char} {side : SideChars}
    (split : splitLiteral? s = some (literal, side)) : ¬ HoldsConsequent literal := by
  rintro ⟨front, blank, gap, key, back, isBlank, isGap, isKey, rfl⟩
  obtain ⟨rest, -, read, earlier⟩ := splitLiteral?_eq_some_iff.mp split
  obtain ⟨consequent, rfl, -⟩ := exists_consequent read
  obtain ⟨body, close⟩ := consequent.chars_close
  -- The text from the consequent inside the literal on can be read.
  have readable := consequent?_of_sign isBlank isGap isKey (back ++ body)
  have refused := earlier front
    (blank :: (thenWord ++ (gap ++ (key ++ (equalsSign ++ back))))) rfl (by simp)
  rw [close] at refused
  simp only [List.append_assoc, List.cons_append] at readable refused
  rw [readable] at refused
  exact absurd refused (by simp)

theorem not_holdsConsequent_of_sides? {s content : List Char} {first second : SideChars}
    (found : sides? s = some (first, second)) (literal : first.2 = some content) :
    ¬ HoldsConsequent content := by
  obtain ⟨spelling, rfl, rfl, rfl⟩ := exists_spelling found
  rw [sides?_with_literal literal, Option.map_eq_some_iff] at found
  obtain ⟨⟨shortest, side⟩, split, same⟩ := found
  have whole : some shortest = spelling.side.2 := congrArg (fun sides => sides.1.2) same
  obtain rfl := Option.some.inj (whole.trans literal)
  exact not_holdsConsequent_of_splitLiteral? split

/-- **A quoted literal is read whole exactly when it holds no consequent.** -/
theorem splitLiteral?_inQuotes_iff {consequent : Consequent}
    (space : consequent.beforeWord = [' ']) (content : List Char) :
    (∃ side, splitLiteral? (inQuotes content ++ consequent.chars) =
      some (inQuotes content, side)) ↔ ¬ HoldsConsequent content := by
  constructor
  · rintro ⟨side, split⟩ holds
    have quoted : content <:+: inQuotes content := ⟨['\x27'], ['\x27'], rfl⟩
    exact not_holdsConsequent_of_splitLiteral? split (holds.of_part quoted)
  · intro free
    refine ⟨_, splitLiteral?_eq_some_iff.mpr ⟨consequent.chars, rfl, consequent?_chars consequent,
      fun front back cut nonempty => ?_⟩⟩
    obtain rfl | ⟨front, back, rfl, rfl⟩ := inQuotes_eq_append cut nonempty
    · exact consequent?_eq_none (Text.forall_mem_head?_cons (by decide) _)
    · rw [Option.eq_none_iff_forall_ne_some]
      intro side read
      obtain ⟨inner, shape, -⟩ := exists_consequent read
      obtain ⟨more, behind⟩ := Consequent.chars_of_space space
      rw [behind, List.append_assoc] at shape
      exact free ((holdsConsequent_of_chars shape).append_left front)

end FieldRules.Expression
