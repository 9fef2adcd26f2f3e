import FieldRules.Text.LowerCase

/-!
# Words of ASCII letters in any case

The lower-case form of a text is one of the words of a rule in few cases only.
Characters beyond ASCII have a lower-case form beyond ASCII, apart from the dotted
capital I, whose form ends in a combining mark, and the Kelvin sign, whose form is
the letter k.  So a text whose lower-case form is an ASCII word without a k is the
word itself, up to the case of its ASCII letters (`lower_eq_iff`).

The core function on characters changes the letters of ASCII only, which is what
the other side of that statement says.
-/

set_option autoImplicit false

namespace FieldRules.Text

/-! ## The table -/

/-- The lower-case partners of a run are characters beyond ASCII. -/
def CaseRun.EndsBeyondAscii (run : CaseRun) : Prop :=
  128 ≤ run.first + run.distance ∧
    (run.last + run.distance < 0xD800 ∨
      0xDFFF < run.first + run.distance ∧ run.last + run.distance < 0x110000)

instance (run : CaseRun) : Decidable run.EndsBeyondAscii :=
  inferInstanceAs (Decidable (_ ∧ _))

/-- The Kelvin sign, a character beyond ASCII whose lower-case form is the letter k. -/
def kelvinSign : Char := '\u212A'

/-- A run lies in ASCII, or it is the Kelvin sign, or its partners lie beyond ASCII. -/
theorem caseRuns_cases : ∀ run ∈ caseRuns,
    run.last < 128 ∨ (run.first = kelvinSign.toNat ∧ run.last = kelvinSign.toNat) ∨
      run.EndsBeyondAscii := by
  decide +kernel

/-! ## One character -/

/-- The lower-case form of an ASCII character. -/
theorem lowerChar_of_ascii {c : Char} (ascii : c.toNat < 128) : lowerChar c = [c.toLower] := by
  have all : ∀ code : Fin 128,
      lowerChar (Char.ofNat code.val) = [(Char.ofNat code.val).toLower] := by decide +kernel
  simpa using all ⟨c.toNat, ascii⟩

theorem toNat_ofNat_of_isValidChar {code : Nat} (valid : code.isValidChar) :
    (Char.ofNat code).toNat = code := by
  unfold Char.ofNat
  rw [dif_pos valid]
  rfl

theorem CaseRun.bounds_of_contains {run : CaseRun} {code : Nat} (within : run.contains code = true) :
    run.first ≤ code ∧ code ≤ run.last := by
  simp only [CaseRun.contains, Bool.and_eq_true, decide_eq_true_eq] at within
  exact within.1

/-- The partner of a character in a run that ends beyond ASCII. -/
theorem CaseRun.EndsBeyondAscii.le_toNat {run : CaseRun} {code : Nat}
    (beyond : run.EndsBeyondAscii) (within : run.contains code = true) :
    128 ≤ (Char.ofNat (Int.toNat (code + run.distance))).toNat := by
  obtain ⟨lower, upper⟩ := run.bounds_of_contains within
  obtain ⟨least, valid⟩ := beyond
  have isValid : Nat.isValidChar (Int.toNat (code + run.distance)) := by
    unfold Nat.isValidChar
    omega
  rw [toNat_ofNat_of_isValidChar isValid]
  omega

/-- The lower-case form of a character beyond ASCII that is not the Kelvin sign holds a character
beyond ASCII. -/
theorem exists_beyond_of_lowerChar {c : Char} (beyond : 128 ≤ c.toNat) (other : c ≠ kelvinSign) :
    ∃ d ∈ lowerChar c, 128 ≤ d.toNat := by
  unfold lowerChar
  split
  · exact ⟨'\u0307', by simp, by decide⟩
  · split
    · next run found =>
      refine ⟨_, List.mem_singleton_self _, ?_⟩
      have within : run.contains c.toNat = true := by simpa using List.find?_some found
      have bounds := run.bounds_of_contains within
      rcases caseRuns_cases run (List.mem_of_find?_eq_some found) with inAscii | kelvin | partners
      · omega
      · have same : c.toNat = kelvinSign.toNat := by omega
        exact absurd (Char.toNat_inj.mp same) other
      · exact partners.le_toNat within
    · exact ⟨c, List.mem_singleton_self c, beyond⟩

/-- The lower-case form of a character in its context, if the form is ASCII and no k. -/
theorem lowerBetween_of_plain {before behind : List Char} {c : Char}
    (plain : ∀ d ∈ lowerBetween before c behind, d.toNat < 128 ∧ d ≠ 'k') :
    c.toNat < 128 ∧ lowerBetween before c behind = [c.toLower] := by
  unfold lowerBetween at plain ⊢
  split at plain
  · -- The final sigma lies beyond ASCII.
    exact absurd (plain 'ς' (List.mem_singleton_self _)).1 (by decide)
  · next noSigma =>
    have ascii : c.toNat < 128 := by
      rcases Nat.lt_or_ge c.toNat 128 with near | far
      · exact near
      · by_cases kelvin : c = kelvinSign
        · have letter : lowerChar kelvinSign = ['k'] := by decide
          rw [kelvin, letter] at plain
          exact absurd rfl (plain 'k' (List.mem_singleton_self _)).2
        · obtain ⟨d, member, beyond⟩ := exists_beyond_of_lowerChar far kelvin
          exact absurd (plain d member).1 (Nat.not_lt.mpr beyond)
    exact ⟨ascii, (if_neg noSigma).trans (lowerChar_of_ascii ascii)⟩

theorem lowerBetween_of_ascii {c : Char} (ascii : c.toNat < 128) (before behind : List Char) :
    lowerBetween before c behind = [c.toLower] := by
  have noSigma : (c == 'Σ') = false := by
    rw [beq_eq_false_iff_ne]
    rintro rfl
    exact absurd ascii (by decide)
  simp [lowerBetween, noSigma, lowerChar_of_ascii ascii]

/-- Only ASCII characters have an ASCII character as their lower-case form in the core. -/
theorem ascii_of_toLower {c : Char} (ascii : c.toLower.toNat < 128) : c.toNat < 128 := by
  unfold Char.toLower at ascii
  split at ascii
  · next upper =>
    exact Nat.lt_of_le_of_lt (UInt32.le_iff_toNat_le.mp upper.2) (by decide)
  · exact ascii

/-! ## Words -/

/-- The characters of a text behind another one are lowered one by one, if their forms are ASCII and
no k. -/
theorem lowerFrom_of_plain {s : List Char} (before : List Char)
    (plain : ∀ d ∈ lowerFrom before s, d.toNat < 128 ∧ d ≠ 'k') :
    lowerFrom before s = s.map Char.toLower := by
  induction s generalizing before with
  | nil => rfl
  | cons c s ih =>
    rw [lowerFrom, List.forall_mem_append] at plain
    rw [lowerFrom, (lowerBetween_of_plain plain.1).2, ih (c :: before) plain.2]
    rfl

theorem lowerFrom_of_ascii {s : List Char} (before : List Char)
    (ascii : ∀ c ∈ s, c.toNat < 128) : lowerFrom before s = s.map Char.toLower := by
  induction s generalizing before with
  | nil => rfl
  | cons c s ih =>
    rw [List.forall_mem_cons] at ascii
    rw [lowerFrom, lowerBetween_of_ascii ascii.1, ih (c :: before) ascii.2]
    rfl

/-- **The lower-case form of a text is an ASCII word without a k exactly when the text is the word
up to the case of ASCII letters.** -/
theorem lower_eq_iff {s word : List Char} (plain : ∀ d ∈ word, d.toNat < 128 ∧ d ≠ 'k') :
    lower s = word ↔ s.map Char.toLower = word := by
  constructor
  · rintro rfl
    exact (lowerFrom_of_plain [] plain).symm
  · rintro rfl
    refine lowerFrom_of_ascii [] fun c member => ?_
    exact ascii_of_toLower (plain c.toLower (List.mem_map_of_mem member)).1

/-- The Kelvin sign and the letter k have the same lower-case form. -/
example : lower ['o', '\u212A'] = ['o', 'k'] ∧ ['o', '\u212A'].map Char.toLower ≠ ['o', 'k'] := by
  decide

end FieldRules.Text
