import FieldRules.Proofs.Rule.Spelling
import FieldRules.Rule.Reading

/-!
# The grammar of requirements

The reader of requirements accepts exactly the texts that can be spelled as one,
and of the spellings of a text it takes the least.

Each reader of a piece is tied to the piece.  It finds the piece in front of any
rest that does not extend it, and what it finds is such a piece.  A consequent is
read from its text alone, up to blanks at the end of its literal
(`consequent?_chars`).  The first literal is then the part in front of the first
readable consequent (`splitLiteral?_eq_some_iff`).
-/

set_option autoImplicit false

namespace FieldRules.Expression

/-! ## Pieces -/

theorem afterBlanks?_gap {gap rest : List Char} (isGap : Text.IsGap gap)
    (start : ∀ c ∈ rest.head?, Text.isBlank c = false) :
    afterBlanks? (gap ++ rest) = some rest := by
  obtain ⟨nonempty, blank⟩ := isGap
  cases gap with
  | nil => exact absurd rfl nonempty
  | cons c gap =>
    have first : Text.isBlank c = true := (Text.allBlank_iff _).mp blank c List.mem_cons_self
    have trimmed : Text.trimStart (c :: gap ++ rest) = rest := by
      rw [Text.trimStart_append blank, Text.trimStart_eq_self start]
    rw [List.cons_append, afterBlanks?, if_pos first]
    simpa [Text.trimStart, first] using trimmed

theorem gap_of_afterBlanks? {s rest : List Char} (found : afterBlanks? s = some rest) :
    ∃ gap, Text.IsGap gap ∧ s = gap ++ rest := by
  cases s with
  | nil => simp [afterBlanks?] at found
  | cons c s =>
    by_cases first : Text.isBlank c = true
    · rw [afterBlanks?, if_pos first] at found
      obtain ⟨front, shape, blank⟩ := Text.trimStart_split s
      refine ⟨c :: front, ⟨by simp, ?_⟩, ?_⟩
      · rw [Text.allBlank_iff] at blank ⊢
        intro d member
        rcases List.mem_cons.mp member with rfl | behind
        · exact first
        · exact blank d behind
      · have same : Text.trimStart s = rest := Option.some.inj found
        rw [← same, List.cons_append, ← shape]
    · rw [afterBlanks?, if_neg first] at found
      exact absurd found (by simp)

theorem key?_append {key rest : List Char} (isKey : IsKey key)
    (stop : ∀ c ∈ rest.head?, isKeyChar c = false) : key? (key ++ rest) = some (key, rest) := by
  obtain ⟨nonempty, inside⟩ := isKey
  unfold key?
  rw [Text.takeWhile_append_of_stop inside stop, Text.dropWhile_append_of_stop inside stop]
  cases key with
  | nil => exact absurd rfl nonempty
  | cons c key => rfl

theorem isKey_of_key? {s key rest : List Char} (found : key? s = some (key, rest)) :
    IsKey key ∧ s = key ++ rest := by
  unfold key? at found
  split at found
  · exact absurd found (by simp)
  · next c front taken =>
    simp only [Option.some.injEq, Prod.mk.injEq] at found
    obtain ⟨rfl, rfl⟩ := found
    refine ⟨⟨by simp, ?_⟩, ?_⟩
    · rw [← taken]
      exact fun d member => List.all_eq_true.mp List.all_takeWhile d member
    · rw [← taken, List.takeWhile_append_dropWhile]

theorem after?_append (word rest : List Char) : after? word (word ++ rest) = some rest :=
  after?_eq_some_iff.mpr rfl

/-- The sign is not found in front of another character. -/
theorem after?_equalsSign_eq_none {s : List Char} (other : ∀ c ∈ s.head?, c ≠ '=') :
    after? equalsSign s = none := by
  cases s with
  | nil => rfl
  | cons c s =>
    have different : '=' ≠ c := (other c rfl).symm
    simp [after?, equalsSign, different]

/-! ## The end of a requirement -/

/-- A literal reaches up to the blanks in front of the closing semicolon. -/
theorem closingLiteral?_append {literal blanks : List Char}
    (blank : Text.allBlank blanks = true) :
    closingLiteral? (literal ++ (blanks ++ [';'])) = some (Text.trimEnd literal) := by
  unfold closingLiteral?
  rw [← List.append_assoc, List.getLast?_concat, List.dropLast_concat, Text.trimEnd_append blank]
  rfl

/-- What stands behind the key of a consequent is read as its literal without the blanks at its
end. -/
theorem closing?_behindKey (consequent : Consequent) :
    closing? consequent.behindKey = some (consequent.side.2.map Text.trimEnd) := by
  have blank := consequent.beforeClose_blank
  unfold Consequent.behindKey closing?
  cases consequent.side.2 with
  | none =>
    have noSign : after? equalsSign (constraint none ++ (consequent.beforeClose ++ [';'])) = none :=
      after?_equalsSign_eq_none consequent.close_ne_sign
    have close : Text.trimStart (constraint none ++ (consequent.beforeClose ++ [';'])) = [';'] := by
      rw [constraint, List.nil_append, Text.trimStart_append blank,
        Text.trimStart_eq_self (Text.forall_mem_head?_cons (by decide) [])]
    rw [noSign, close]
    rfl
  | some literal =>
    rw [constraint, List.append_assoc, after?_append]
    simp only [closingLiteral?_append blank, Option.map_some]

/-- What is read behind the key of a consequent ends the text, possibly after blanks. -/
theorem behindKey_of_closing? {s : List Char} {literal : Option (List Char)}
    (found : closing? s = some literal) :
    ∃ blanks, Text.allBlank blanks = true ∧ s = constraint literal ++ (blanks ++ [';']) := by
  unfold closing? at found
  cases sign : after? equalsSign s with
  | some content =>
    simp only [sign, closingLiteral?, beq_iff_eq, Option.map_eq_some_iff] at found
    obtain ⟨trimmed, closes, rfl⟩ := found
    split at closes
    · next last =>
      obtain ⟨start, shape⟩ := List.getLast?_eq_some_iff.mp last
      obtain ⟨blanks, cut, blank⟩ := Text.trimEnd_split start
      have same : Text.trimEnd start = trimmed := by simpa [shape] using closes
      refine ⟨blanks, blank, ?_⟩
      rw [after?_eq_some_iff.mp sign, shape, constraint, ← same]
      rw [List.append_assoc, ← List.append_assoc _ blanks, ← cut]
    · exact absurd closes (by simp)
  | none =>
    simp only [sign, beq_iff_eq] at found
    split at found
    · next close =>
      obtain ⟨blanks, cut, blank⟩ := Text.trimStart_split s
      obtain rfl := Option.some.inj found
      exact ⟨blanks, blank, by rw [cut, close]; rfl⟩
    · exact absurd found (by simp)

/-- A consequent is read from its text with its key, and with its literal up to blanks at the
end. -/
theorem consequent?_chars (consequent : Consequent) :
    consequent? consequent.chars =
      some (consequent.side.1, consequent.side.2.map Text.trimEnd) := by
  have word : ∀ c ∈ (thenWord ++ (consequent.behindWord
      ++ (consequent.side.1 ++ consequent.behindKey))).head?, Text.isBlank c = false :=
    Text.forall_mem_head?_cons (by decide) _
  have beforeWord := afterBlanks?_gap consequent.beforeWord_gap word
  have behindWord := afterBlanks?_gap consequent.behindWord_gap
    (consequent.side_key.head_not_blank consequent.behindKey)
  have key := key?_append consequent.side_key consequent.behindKey_stop
  simp [consequent?, Consequent.chars, beforeWord, after?_append, behindWord, key,
    closing?_behindKey]

/-- What is read as a consequent is the text of one. -/
theorem exists_consequent {s : List Char} {side : SideChars} (found : consequent? s = some side) :
    ∃ consequent : Consequent, consequent.chars = s ∧ consequent.side = side := by
  simp only [consequent?, Option.bind_eq_bind, Option.bind_eq_some_iff, Prod.exists,
    Option.pure_def, Option.some.injEq] at found
  obtain ⟨opening, blanks, behindWord, word, front, moreBlanks, key, rest, keyFound, literal,
    closes, rfl⟩ := found
  obtain ⟨beforeGap, beforeGap_gap, shape⟩ := gap_of_afterBlanks? blanks
  obtain ⟨behindGap, behindGap_gap, behindShape⟩ := gap_of_afterBlanks? moreBlanks
  obtain ⟨isKey, keyShape⟩ := isKey_of_key? keyFound
  obtain ⟨close, close_blank, closeShape⟩ := behindKey_of_closing? closes
  refine ⟨⟨beforeGap, behindGap, (key, literal), close, beforeGap_gap, behindGap_gap, isKey,
    close_blank⟩, ?_, rfl⟩
  simp only [Consequent.chars, Consequent.behindKey]
  rw [shape, after?_eq_some_iff.mp word, behindShape, keyShape, closeShape]

/-! ## The first literal -/

/-- The first literal is the part of a text in front of the first consequent that can be read. -/
theorem splitLiteral?_eq_some_iff {s literal : List Char} {side : SideChars} :
    splitLiteral? s = some (literal, side) ↔
      ∃ rest, s = literal ++ rest ∧ consequent? rest = some side ∧
        ∀ front back, literal = front ++ back → back ≠ [] → consequent? (back ++ rest) = none := by
  induction s generalizing literal with
  | nil =>
    refine ⟨fun found => absurd found (by simp [splitLiteral?]), ?_⟩
    rintro ⟨rest, shape, read, -⟩
    have empty : rest = [] := (List.append_eq_nil_iff.mp shape.symm).2
    rw [empty] at read
    exact absurd read (by simp [consequent?, afterBlanks?])
  | cons c s ih =>
    unfold splitLiteral?
    cases here : consequent? (c :: s) with
    | some first =>
      simp only [Option.some.injEq, Prod.mk.injEq]
      constructor
      · rintro ⟨rfl, rfl⟩
        exact ⟨c :: s, rfl, here, fun front back shape nonempty =>
          absurd (List.append_eq_nil_iff.mp shape.symm).2 nonempty⟩
      · rintro ⟨rest, shape, read, earlier⟩
        cases literal with
        | nil =>
          have same : c :: s = rest := shape
          rw [← same, here] at read
          exact ⟨rfl, Option.some.inj read⟩
        | cons d literal =>
          -- The text itself can be read, so no literal in front of it is the shortest.
          have refused := earlier [] (d :: literal) rfl (by simp)
          rw [← shape, here] at refused
          exact absurd refused (by simp)
    | none =>
      simp only [Option.map_eq_some_iff]
      constructor
      · rintro ⟨⟨shorter, found⟩, split, same⟩
        obtain ⟨rfl, rfl⟩ := Prod.mk.inj same
        obtain ⟨rest, shape, read, earlier⟩ := ih.mp split
        refine ⟨rest, by rw [shape, List.cons_append], read, fun front back cut nonempty => ?_⟩
        cases front with
        | nil =>
          have whole : c :: shorter = back := cut
          rw [← whole, List.cons_append, ← shape]
          exact here
        | cons d front =>
          exact earlier front back (List.cons.inj cut).2 nonempty
      · rintro ⟨rest, shape, read, earlier⟩
        cases literal with
        | nil =>
          have same : c :: s = rest := shape
          rw [← same, here] at read
          exact absurd read (by simp)
        | cons d literal =>
          obtain ⟨rfl, behind⟩ := List.cons.inj shape
          refine ⟨(literal, side), ih.mpr ⟨rest, behind, read, ?_⟩, rfl⟩
          intro front back cut nonempty
          exact earlier (c :: front) back (by rw [cut, List.cons_append]) nonempty

/-- In front of a consequent that can be read a literal is found, and it is not longer than the
text in front of the consequent. -/
theorem exists_splitLiteral? {rest : List Char} {side : SideChars}
    (read : consequent? rest = some side) (front : List Char) :
    ∃ literal found, splitLiteral? (front ++ rest) = some (literal, found) ∧ literal <+: front ∧
      (literal = front → found = side) := by
  induction front with
  | nil =>
    have split : splitLiteral? rest = some ([], side) :=
      splitLiteral?_eq_some_iff.mpr ⟨rest, rfl, read, fun front back cut nonempty =>
        absurd (List.append_eq_nil_iff.mp cut.symm).2 nonempty⟩
    exact ⟨[], side, split, List.nil_prefix, fun _ => rfl⟩
  | cons c front ih =>
    obtain ⟨literal, found, split, shorter, agrees⟩ := ih
    rw [List.cons_append]
    cases here : consequent? (c :: (front ++ rest)) with
    | some first =>
      refine ⟨[], first, by simp [splitLiteral?, here], List.nil_prefix, fun empty => ?_⟩
      exact absurd empty (by simp)
    | none =>
      refine ⟨c :: literal, found, by simp [splitLiteral?, here, split], ?_, fun same => ?_⟩
      · exact List.cons_prefix_cons.mpr ⟨rfl, shorter⟩
      · exact agrees (List.cons.inj same).2

/-! ## Both sides -/

/-- A literal in front of another one. -/
def LiteralFront (front literal : Option (List Char)) : Prop :=
  Option.Rel (· <+: ·) front literal

theorem LiteralFront.length_le {front literal : Option (List Char)}
    (prefixed : LiteralFront front literal) : literalLength front ≤ literalLength literal := by
  cases prefixed with
  | some shorter => exact shorter.length_le
  | none => exact Nat.le_refl _

theorem LiteralFront.eq_of_length_le {front literal : Option (List Char)}
    (prefixed : LiteralFront front literal)
    (long : literalLength literal ≤ literalLength front) : front = literal := by
  cases prefixed with
  | some shorter => exact congrArg some (shorter.eq_of_length_le long)
  | none => rfl

theorem literalFront_trimEnd (literal : Option (List Char)) :
    LiteralFront (literal.map Text.trimEnd) literal := by
  cases literal with
  | some content => exact Option.Rel.some (Text.trimEnd_prefix content)
  | none => exact Option.Rel.none

/-- A requirement without a first literal is read from its spelling alone. -/
theorem sides?_without_literal {spelling : Spelling} (absent : spelling.side.2 = none) :
    sides? spelling.behindWord = some ((spelling.side.1, none),
      (spelling.consequent.side.1, spelling.consequent.side.2.map Text.trimEnd)) := by
  have opening := afterBlanks?_gap spelling.behindIf_gap
    (spelling.side_key.head_not_blank spelling.behindKey)
  have key := key?_append spelling.side_key spelling.behindKey_stop
  have behind : spelling.behindKey = spelling.consequent.chars := by
    rw [Spelling.behindKey, absent, constraint, List.nil_append]
  have noSign := after?_equalsSign_eq_none (ne_sign_of_blank spelling.consequent.head_blank)
  rw [behind] at opening key
  simp [sides?, Spelling.behindWord, behind, opening, key, noSign, consequent?_chars]

/-- A requirement with a first literal is read by splitting that literal from the consequent. -/
theorem sides?_with_literal {spelling : Spelling} {content : List Char}
    (present : spelling.side.2 = some content) :
    sides? spelling.behindWord = (splitLiteral? (content ++ spelling.consequent.chars)).map
      fun (literal, second) => ((spelling.side.1, some literal), second) := by
  have opening := afterBlanks?_gap spelling.behindIf_gap
    (spelling.side_key.head_not_blank spelling.behindKey)
  have key := key?_append spelling.side_key spelling.behindKey_stop
  have behind : spelling.behindKey = equalsSign ++ (content ++ spelling.consequent.chars) := by
    rw [Spelling.behindKey, present, constraint, List.append_assoc]
  rw [behind] at opening key
  cases split : splitLiteral? (content ++ spelling.consequent.chars) <;>
    simp [sides?, Spelling.behindWord, behind, opening, key, after?_append, split]

/-- A requirement that is spelled out is read with its first key, with a first literal that is a
front of its own, and, if that is all of it, with the rest of the spelling as well. -/
theorem exists_sides? (spelling : Spelling) :
    ∃ first second, sides? spelling.behindWord = some (first, second) ∧
      first.1 = spelling.side.1 ∧ LiteralFront first.2 spelling.side.2 ∧
      (first.2 = spelling.side.2 → second =
        (spelling.consequent.side.1, spelling.consequent.side.2.map Text.trimEnd)) := by
  cases literal : spelling.side.2 with
  | none =>
    exact ⟨_, _, sides?_without_literal literal, rfl, Option.Rel.none, fun _ => rfl⟩
  | some content =>
    obtain ⟨shorter, second, split, front, agrees⟩ :=
      exists_splitLiteral? (consequent?_chars spelling.consequent) content
    refine ⟨(spelling.side.1, some shorter), second, ?_, rfl, Option.Rel.some front, fun same => ?_⟩
    · rw [sides?_with_literal literal, split]
      rfl
    · exact agrees (Option.some.inj same)

/-- What is read as a requirement is spelled by the two sides. -/
theorem exists_spelling {s : List Char} {first second : SideChars}
    (found : sides? s = some (first, second)) :
    ∃ spelling : Spelling, spelling.behindWord = s ∧ spelling.side = first ∧
      spelling.consequent.side = second := by
  simp only [sides?, Option.bind_eq_bind, Option.bind_eq_some_iff, Prod.exists] at found
  obtain ⟨opening, blanks, key, rest, keyFound, tail⟩ := found
  obtain ⟨gap, isGap, shape⟩ := gap_of_afterBlanks? blanks
  obtain ⟨isKey, keyShape⟩ := isKey_of_key? keyFound
  cases sign : after? equalsSign rest with
  | some behindSign =>
    simp only [sign, Option.pure_def, Option.bind_eq_some_iff, Option.some.injEq, Prod.mk.injEq,
      Prod.exists] at tail
    obtain ⟨literal, key', literal', split, rfl, rfl⟩ := tail
    obtain ⟨behind, cut, read, -⟩ := splitLiteral?_eq_some_iff.mp split
    obtain ⟨consequent, chars, side⟩ := exists_consequent read
    refine ⟨⟨gap, (key, some literal), consequent, isGap, isKey⟩, ?_, rfl, side⟩
    simp only [Spelling.behindWord, Spelling.behindKey, constraint]
    rw [shape, keyShape, after?_eq_some_iff.mp sign, cut, chars, List.append_assoc equalsSign]
  | none =>
    simp only [sign, Option.pure_def, Option.bind_eq_some_iff, Option.some.injEq, Prod.mk.injEq,
      Prod.exists] at tail
    obtain ⟨key', literal', read, rfl, rfl⟩ := tail
    obtain ⟨consequent, chars, side⟩ := exists_consequent read
    refine ⟨⟨gap, (key, none), consequent, isGap, isKey⟩, ?_, rfl, side⟩
    simp only [Spelling.behindWord, Spelling.behindKey, constraint, List.nil_append]
    rw [shape, keyShape, chars]

/-! ## The least spelling -/

/-- The two sides that are read are those of a least spelling. -/
theorem sides?_eq_some_iff {s : List Char} {first second : SideChars} :
    sides? s = some (first, second) ↔
      ∃ spelling : Spelling, spelling.behindWord = s ∧ spelling.IsLeast ∧
        spelling.side = first ∧ spelling.consequent.side = second := by
  constructor
  · intro found
    obtain ⟨spelling, behind, rfl, rfl⟩ := exists_spelling found
    refine ⟨spelling, behind, fun other same => ?_, rfl, rfl⟩
    -- Any other spelling of the text is read as the same two sides.
    have sameBehind : other.behindWord = s := (List.append_cancel_left same).trans behind
    obtain ⟨first, second, read, -, front, agrees⟩ := exists_sides? other
    rw [sameBehind, found] at read
    obtain ⟨rfl, rfl⟩ := Prod.mk.inj (Option.some.inj read)
    refine ⟨front.length_le, fun equal => ?_⟩
    have trimmed := congrArg Prod.snd (agrees equal.symm)
    rw [trimmed]
    exact (literalFront_trimEnd _).length_le
  · rintro ⟨spelling, behind, least, rfl, rfl⟩
    obtain ⟨first, second, read, key, front, agrees⟩ := exists_sides? spelling
    obtain ⟨other, sameBehind, rfl, rfl⟩ := exists_spelling read
    obtain ⟨shortest, shortestSecond⟩ := least other (congrArg (ifWord ++ ·) sameBehind)
    have sameLiteral : other.side.2 = spelling.side.2 := front.eq_of_length_le shortest
    have trimmed := agrees sameLiteral
    have sameSecond : other.consequent.side.2 = spelling.consequent.side.2 := by
      have shortestHere := shortestSecond sameLiteral
      rw [trimmed] at shortestHere ⊢
      exact (literalFront_trimEnd _).eq_of_length_le shortestHere
    have sameKey : other.consequent.side.1 = spelling.consequent.side.1 := by rw [trimmed]
    rw [← behind, read, Prod.ext key sameLiteral, Prod.ext sameKey sameSecond]

/-! ## Whole texts -/

/-- A list of keys is never taken for a requirement. -/
theorem readKeys_ne_requires (kind : ListKind) (s : List Char) (first second : Side) :
    readKeys kind s ≠ .requires first second := by
  unfold readKeys
  split
  · split
    · dsimp only
      split <;> simp
    · simp
  · simp

/-- A trimmed text is recognised as a requirement when it opens with the word and the rest is read
as two sides. -/
theorem ofTrimmed_eq_requires_iff {s : List Char} {first second : Side} :
    ofTrimmed s = .requires first second ↔
      ∃ rest left right, s = ifWord ++ rest ∧ sides? rest = some (left, right) ∧
        side left = first ∧ side right = second := by
  unfold ofTrimmed
  cases word : after? ifWord s with
  | some rest =>
    have shape := after?_eq_some_iff.mp word
    have unique {other : List Char} (same : s = ifWord ++ other) : rest = other :=
      List.append_cancel_left (shape.symm.trans same)
    simp only [readRequires]
    cases found : sides? rest with
    | none =>
      refine ⟨fun read => absurd read (by simp), ?_⟩
      rintro ⟨other, left, right, same, read, -⟩
      rw [← unique same, found] at read
      exact absurd read (by simp)
    | some sides =>
      constructor
      · intro read
        obtain ⟨rfl, rfl⟩ := Expression.requires.inj read
        exact ⟨rest, sides.1, sides.2, shape, found, rfl, rfl⟩
      · rintro ⟨other, left, right, same, read, rfl, rfl⟩
        rw [← unique same, found] at read
        rw [Option.some.inj read]
  | none =>
    dsimp only
    constructor
    · intro read
      split at read
      · exact absurd read (readKeys_ne_requires _ _ _ _)
      · split at read
        · exact absurd read (readKeys_ne_requires _ _ _ _)
        · exact absurd read (by simp)
    · rintro ⟨rest, left, right, shape, -⟩
      rw [after?_eq_some_iff.mpr shape] at word
      exact absurd word (by simp)

theorem literal_side_eq_none_iff (chars : SideChars) :
    (side chars).literal = none ↔ chars.2 = none := by
  simp [side]

/-- A trimmed text is recognised with the sides of its least spelling. -/
theorem ofTrimmed_eq_requires_iff_least {s : List Char} {first second : Side} :
    ofTrimmed s = .requires first second ↔
      ∃ spelling : Spelling, spelling.chars = s ∧ spelling.IsLeast ∧
        side spelling.side = first ∧ side spelling.consequent.side = second := by
  rw [ofTrimmed_eq_requires_iff]
  constructor
  · rintro ⟨rest, left, right, shape, found, rfl, rfl⟩
    obtain ⟨spelling, rfl, least, rfl, rfl⟩ := sides?_eq_some_iff.mp found
    exact ⟨spelling, shape.symm, least, rfl, rfl⟩
  · rintro ⟨spelling, shape, least, rfl, rfl⟩
    have found := sides?_eq_some_iff.mpr ⟨spelling, rfl, least, rfl, rfl⟩
    exact ⟨spelling.behindWord, _, _, shape.symm, found, rfl, rfl⟩

/-- A trimmed text is recognised as a requirement when it has a spelling. -/
theorem ofTrimmed_requires_iff_spelled {s : List Char} :
    (∃ first second : Side, ofTrimmed s = .requires first second) ↔
      ∃ spelling : Spelling, spelling.chars = s := by
  constructor
  · rintro ⟨first, second, read⟩
    obtain ⟨spelling, shape, -⟩ := ofTrimmed_eq_requires_iff_least.mp read
    exact ⟨spelling, shape⟩
  · rintro ⟨spelling, shape⟩
    obtain ⟨left, right, found, -⟩ := exists_sides? spelling
    refine ⟨side left, side right, ofTrimmed_eq_requires_iff.mpr ?_⟩
    exact ⟨spelling.behindWord, left, right, shape.symm, found, rfl, rfl⟩

/-- A trimmed text that opens with the word of requirements and has no spelling is malformed. -/
theorem ofTrimmed_eq_malformedRequires {s : List Char} (opens : ifWord <+: s)
    (unspelled : ¬ ∃ spelling : Spelling, spelling.chars = s) :
    ofTrimmed s = .malformedRequires := by
  obtain ⟨rest, rfl⟩ := opens
  have unread : sides? rest = none := by
    rw [Option.eq_none_iff_forall_ne_some]
    rintro ⟨first, second⟩ found
    obtain ⟨spelling, rfl, -⟩ := exists_spelling found
    exact unspelled ⟨spelling, rfl⟩
  simp only [ofTrimmed, after?_append, readRequires, unread]

/-- **A text is recognised as a requirement exactly when it can be spelled as one, and then with the
sides of its least spelling.**  A text that opens with the word of requirements and has no spelling
is malformed. -/
theorem ofText_requires_iff (text : String) :
    (∀ first second : Side, ofText text = .requires first second ↔
      ∃ spelling : Spelling, spelling.chars = Text.trim text.toList ∧ spelling.IsLeast ∧
        side spelling.side = first ∧ side spelling.consequent.side = second ∧
        (first.literal = none ↔ ¬ equalsSign <+: spelling.behindKey) ∧
        (second.literal = none ↔ ¬ equalsSign <+: spelling.consequent.behindKey)) ∧
    ((∃ first second : Side, ofText text = .requires first second) ↔
      ∃ spelling : Spelling, spelling.chars = Text.trim text.toList) ∧
    (ifWord <+: Text.trim text.toList →
      (¬ ∃ spelling : Spelling, spelling.chars = Text.trim text.toList) →
        ofText text = .malformedRequires ∧ (ofText text).kind = .requires ∧
          ((ofText text).refusal .requires).code = .malformed) := by
  refine ⟨fun first second => ?_, ofTrimmed_requires_iff_spelled, fun opens unspelled => ?_⟩
  · rw [ofText, ofTrimmed_eq_requires_iff_least]
    constructor
    · rintro ⟨spelling, shape, least, rfl, rfl⟩
      refine ⟨spelling, shape, least, rfl, rfl, ?_, ?_⟩
      · rw [literal_side_eq_none_iff, spelling.literal_eq_none_iff]
      · rw [literal_side_eq_none_iff, spelling.consequent.literal_eq_none_iff]
    · rintro ⟨spelling, shape, least, left, right, -, -⟩
      exact ⟨spelling, shape, least, left, right⟩
  · have malformed : ofText text = .malformedRequires :=
      ofTrimmed_eq_malformedRequires opens unspelled
    rw [malformed]
    exact ⟨rfl, rfl, rfl⟩

example : ofText "IF a==x THEN y THEN b;" = .requires ⟨"a", some "x THEN y"⟩ ⟨"b", none⟩ := by
  decide +kernel

end FieldRules.Expression
