import FieldRules.Proofs.Text.LowerCase
import FieldRules.Proofs.Text.Trimming
import FieldRules.Settings

/-!
# Words that set a switch

A text spells a word if the letters of the word stand in it, those of ASCII in
either case, with blanks around them and nothing else (`Text.Spells`).  A text
whose trimmed lower-case form is a word for a switch spells that word: no other
character becomes one of its letters, and no letter of it is a blank in either
case (`Text.lower_trim_eq_iff`).

Which position a text gives to a switch is a relation (`Settings.Sets`), and a
switch is in that position for every text (`Settings.switch_eq_iff`).
-/

set_option autoImplicit false

namespace FieldRules

/-! ## Spelling a word -/

namespace Text

/-- A text spells a word: the letters of the word stand in it, those of ASCII in either case, with
blanks around them and nothing else. -/
def Spells (s word : List Char) : Prop :=
  ∃ front letters tail, s = front ++ letters ++ tail ∧
    allBlank front = true ∧ allBlank tail = true ∧ letters.map Char.toLower = word

/-- A word of ASCII characters, none of them a k or a blank. -/
def IsPlainWord (word : List Char) : Prop :=
  ∀ c ∈ word, (c.toNat < 128 ∧ c ≠ 'k') ∧ isBlank c = false

instance (word : List Char) : Decidable (IsPlainWord word) :=
  List.decidableBAll _ word

/-- The core's lower-case form of a character is a blank exactly when the character is one. -/
theorem isBlank_toLower (c : Char) : isBlank c.toLower = isBlank c := by
  rcases Nat.lt_or_ge c.toNat 128 with ascii | beyond
  · have all : ∀ code : Fin 128,
        isBlank (Char.ofNat code.val).toLower = isBlank (Char.ofNat code.val) := by decide +kernel
    simpa using all ⟨c.toNat, ascii⟩
  · have kept : c.toLower = c := by
      unfold Char.toLower
      split
      · next upper =>
        have ascii : c.toNat < 128 :=
          Nat.lt_of_le_of_lt (UInt32.le_iff_toNat_le.mp upper.2) (by decide)
        exact absurd ascii (Nat.not_lt.mpr beyond)
      · rfl
    rw [kept]

/-- Trimming takes away the blanks around a run without blanks. -/
theorem trim_around {front run tail : List Char} (frontBlank : allBlank front = true)
    (tailBlank : allBlank tail = true) (solid : ∀ c ∈ run, isBlank c = false) :
    trim (front ++ run ++ tail) = run := by
  rw [trim, List.append_assoc, trimStart_append frontBlank]
  cases run with
  | nil =>
    have nothing : trimStart (tail ++ []) = [] := trimStart_append tailBlank
    rw [List.nil_append, ← List.append_nil tail, nothing]
    rfl
  | cons c run =>
    have headSolid : isBlank c = false := solid c List.mem_cons_self
    rw [List.cons_append, trimStart_eq_self (forall_mem_head?_cons headSolid _),
      ← List.cons_append, trimEnd_append tailBlank]
    exact trimEnd_eq_self fun d last => solid d (List.mem_of_getLast? last)

/-- The trimmed lower-case form of a text is a plain word exactly when the text spells the word. -/
theorem lower_trim_eq_iff {s word : List Char} (plain : IsPlainWord word) :
    lower (trim s) = word ↔ Spells s word := by
  rw [lower_eq_iff fun c member => (plain c member).1]
  constructor
  · intro same
    obtain ⟨front, tail, shape, frontBlank, tailBlank⟩ := trim_split s
    exact ⟨front, trim s, tail, shape, frontBlank, tailBlank, same⟩
  · rintro ⟨front, letters, tail, rfl, frontBlank, tailBlank, same⟩
    have solid : ∀ c ∈ letters, isBlank c = false := by
      intro c member
      rw [← isBlank_toLower]
      exact (plain c.toLower (same ▸ List.mem_map_of_mem member)).2
    rw [trim_around frontBlank tailBlank solid, same]

end Text

/-! ## Setting a switch -/

namespace Settings

/-- The position that a text, or its absence, gives to a switch with a default. -/
inductive Sets (default : Bool) : Option String → Bool → Prop where
  | unset : Sets default none default
  | on (raw word : String) (known : word ∈ onWords)
      (spells : Text.Spells raw.toList word.toList) : Sets default (some raw) true
  | off (raw word : String) (known : word ∈ offWords)
      (spells : Text.Spells raw.toList word.toList) : Sets default (some raw) false
  | unrecognised (raw : String)
      (unknown : ∀ word ∈ onWords ++ offWords, ¬ Text.Spells raw.toList word.toList) :
      Sets default (some raw) default

theorem isPlainWord_of_mem : ∀ word ∈ onWords ++ offWords, Text.IsPlainWord word.toList := by
  decide

theorem not_mem_onWords_of_mem_offWords : ∀ word ∈ offWords, word ∉ onWords := by
  decide

/-- The known form of a text is a word for a switch exactly when the text spells the word. -/
theorem known_eq_iff {raw word : String} (member : word ∈ onWords ++ offWords) :
    String.ofList (Text.lower (Text.trim raw.toList)) = word ↔
      Text.Spells raw.toList word.toList := by
  rw [← Text.lower_trim_eq_iff (isPlainWord_of_mem word member)]
  constructor
  · rintro rfl
    exact (String.toList_ofList).symm
  · intro same
    rw [same, String.ofList_toList]

/-- **A switch is in the position that its text gives to it.** -/
theorem switch_eq_iff {text : Option String} {default position : Bool} :
    switch text default = position ↔ Sets default text position := by
  constructor
  · rintro rfl
    cases text with
    | none => exact .unset
    | some raw =>
      simp only [switch, List.contains_iff_mem]
      split
      · next known =>
        exact .on raw _ known ((known_eq_iff (List.mem_append_left _ known)).mp rfl)
      · next notOn =>
        split
        · next known =>
          exact .off raw _ known ((known_eq_iff (List.mem_append_right _ known)).mp rfl)
        · next notOff =>
          refine .unrecognised raw fun word member spells => ?_
          obtain rfl := (known_eq_iff member).mpr spells
          rcases List.mem_append.mp member with known | known
          · exact notOn known
          · exact notOff known
  · intro sets
    cases sets with
    | unset => rfl
    | on raw word known spells =>
      obtain rfl := (known_eq_iff (List.mem_append_left _ known)).mpr spells
      simp [switch, known]
    | off raw word known spells =>
      obtain rfl := (known_eq_iff (List.mem_append_right _ known)).mpr spells
      simp [switch, known, not_mem_onWords_of_mem_offWords _ known]
    | unrecognised raw unknown =>
      have notKnown : String.ofList (Text.lower (Text.trim raw.toList)) ∉ onWords ++ offWords :=
        fun member => unknown _ member ((known_eq_iff member).mp rfl)
      rw [List.mem_append, not_or] at notKnown
      simp [switch, notKnown]

example : switch (some " ON ") false = true ∧ switch (some "maybe") false = false := by
  decide +kernel

end Settings

end FieldRules
