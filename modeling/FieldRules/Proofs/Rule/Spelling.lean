import FieldRules.Proofs.Text.Trimming
import FieldRules.Rule.Expression

/-!
# Requirements spelled out

What the text of a requirement is made of, said without reading it.  A
`Spelling` is a choice of all its parts, two sides and the blanks between the
words, and `Spelling.chars` is the text that the parts make up.  The part from
the blanks in front of the second word on is a `Consequent`.

The literals of a spelling are arbitrary, so one text can have many spellings.
They all have the same first key, and they differ in where the literals end.
The least spelling has the shortest first literal, and with that first literal
the shortest second one.
-/

set_option autoImplicit false

namespace FieldRules.Expression

/-! ## Parts -/

/-- A key of a requirement: one character or more, and none that ends a key. -/
def IsKey (key : List Char) : Prop := key ≠ [] ∧ ∀ c ∈ key, isKeyChar c = true

/-- What stands behind a key: the sign and a literal, or nothing. -/
def constraint : Option (List Char) → List Char
  | none => []
  | some literal => equalsSign ++ literal

/-- The length of a literal; an absent literal has none. -/
def literalLength : Option (List Char) → Nat
  | none => 0
  | some literal => literal.length

/-- The end of a requirement: blanks, the word between the sides, blanks, a side, possibly blanks,
and the closing semicolon. -/
structure Consequent where
  beforeWord : List Char
  behindWord : List Char
  side : SideChars
  beforeClose : List Char
  beforeWord_gap : Text.IsGap beforeWord
  behindWord_gap : Text.IsGap behindWord
  side_key : IsKey side.1
  beforeClose_blank : Text.allBlank beforeClose = true

/-- What stands behind the key of a consequent. -/
def Consequent.behindKey (consequent : Consequent) : List Char :=
  constraint consequent.side.2 ++ (consequent.beforeClose ++ [';'])

/-- The text of a consequent. -/
def Consequent.chars (consequent : Consequent) : List Char :=
  consequent.beforeWord ++ (thenWord ++ (consequent.behindWord
    ++ (consequent.side.1 ++ consequent.behindKey)))

/-- A requirement: the opening word, blanks, a side, and a consequent. -/
structure Spelling where
  behindIf : List Char
  side : SideChars
  consequent : Consequent
  behindIf_gap : Text.IsGap behindIf
  side_key : IsKey side.1

/-- What stands behind the first key of a requirement. -/
def Spelling.behindKey (spelling : Spelling) : List Char :=
  constraint spelling.side.2 ++ spelling.consequent.chars

/-- What stands behind the opening word of a requirement. -/
def Spelling.behindWord (spelling : Spelling) : List Char :=
  spelling.behindIf ++ (spelling.side.1 ++ spelling.behindKey)

/-- The text of a requirement. -/
def Spelling.chars (spelling : Spelling) : List Char := ifWord ++ spelling.behindWord

/-- No spelling of the same text has a shorter first literal, and none with the same first literal
has a shorter second one. -/
def Spelling.IsLeast (spelling : Spelling) : Prop :=
  ∀ other : Spelling, other.chars = spelling.chars →
    literalLength spelling.side.2 ≤ literalLength other.side.2 ∧
    (other.side.2 = spelling.side.2 →
      literalLength spelling.consequent.side.2 ≤ literalLength other.consequent.side.2)

/-! ## Where the parts end -/

theorem isKeyChar_iff (c : Char) :
    isKeyChar c = true ↔ Text.isBlank c = false ∧ c ≠ '=' ∧ c ≠ ';' := by
  simp [isKeyChar, and_assoc]

theorem IsKey.head_not_blank {key : List Char} (isKey : IsKey key) (rest : List Char) :
    ∀ c ∈ (key ++ rest).head?, Text.isBlank c = false := by
  obtain ⟨nonempty, inside⟩ := isKey
  cases key with
  | nil => exact absurd rfl nonempty
  | cons c key =>
    exact Text.forall_mem_head?_cons ((isKeyChar_iff c).mp (inside c List.mem_cons_self)).1 _

theorem Consequent.head_blank (consequent : Consequent) :
    ∀ c ∈ consequent.chars.head?, Text.isBlank c = true :=
  consequent.beforeWord_gap.head_blank _

/-- Behind the key of a consequent stands no character of a key. -/
theorem Consequent.behindKey_stop (consequent : Consequent) :
    ∀ c ∈ consequent.behindKey.head?, isKeyChar c = false := by
  intro c first
  unfold Consequent.behindKey at first
  cases literal : consequent.side.2 with
  | some content =>
    have sign : '=' = c := by simpa [literal, constraint, equalsSign] using first
    subst sign
    decide
  | none =>
    rw [literal] at first
    cases blanks : consequent.beforeClose with
    | nil =>
      have close : ';' = c := by simpa [blanks, constraint] using first
      subst close
      decide
    | cons d rest =>
      have same : d = c := by simpa [blanks, constraint] using first
      subst same
      have blank := (Text.allBlank_iff _).mp consequent.beforeClose_blank d (by simp [blanks])
      simp [isKeyChar, blank]

/-- Behind the first key of a requirement stands no character of a key. -/
theorem Spelling.behindKey_stop (spelling : Spelling) :
    ∀ c ∈ spelling.behindKey.head?, isKeyChar c = false := by
  intro c first
  unfold Spelling.behindKey at first
  cases literal : spelling.side.2 with
  | some content =>
    have sign : '=' = c := by simpa [literal, constraint, equalsSign] using first
    subst sign
    decide
  | none =>
    rw [literal] at first
    have blank := spelling.consequent.head_blank c first
    simp [isKeyChar, blank]

/-- A key is followed by the sign exactly when it has a literal. -/
theorem sign_prefix_iff {literal : Option (List Char)} {rest : List Char}
    (stop : ∀ c ∈ rest.head?, c ≠ '=') :
    equalsSign <+: constraint literal ++ rest ↔ literal ≠ none := by
  cases literal with
  | some content => simp [constraint]
  | none =>
    cases rest with
    | nil => simp [constraint, equalsSign]
    | cons c rest =>
      have other : c ≠ '=' := stop c rfl
      simp [constraint, equalsSign, Ne.symm other]

theorem ne_sign_of_blank {s : List Char} (blank : ∀ c ∈ s.head?, Text.isBlank c = true) :
    ∀ c ∈ s.head?, c ≠ '=' := by
  intro c first equal
  subst equal
  exact absurd (blank '=' first) (by decide)

/-- The first literal of a requirement is absent exactly when its key is not followed by the
sign. -/
theorem Spelling.literal_eq_none_iff (spelling : Spelling) :
    spelling.side.2 = none ↔ ¬ equalsSign <+: spelling.behindKey := by
  unfold Spelling.behindKey
  rw [sign_prefix_iff (ne_sign_of_blank spelling.consequent.head_blank)]
  exact Classical.not_not.symm

theorem Consequent.close_ne_sign (consequent : Consequent) :
    ∀ c ∈ (consequent.beforeClose ++ [';']).head?, c ≠ '=' := by
  intro c first equal
  subst equal
  cases blanks : consequent.beforeClose with
  | nil => simp [blanks] at first
  | cons d rest =>
    have same : d = '=' := by simpa [blanks] using first
    subst same
    have blank := (Text.allBlank_iff _).mp consequent.beforeClose_blank '=' (by simp [blanks])
    exact absurd blank (by decide)

/-- The second literal of a requirement is absent exactly when its key is not followed by the
sign. -/
theorem Consequent.literal_eq_none_iff (consequent : Consequent) :
    consequent.side.2 = none ↔ ¬ equalsSign <+: consequent.behindKey := by
  unfold Consequent.behindKey
  rw [sign_prefix_iff consequent.close_ne_sign]
  exact Classical.not_not.symm

end FieldRules.Expression
