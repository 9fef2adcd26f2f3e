import FieldRules.Text.Blank

/-!
# Blanks beside other texts

How trimming acts on a text that is put together from parts.  Blanks at the end
that is trimmed vanish (`trimStart_append`, `trimEnd_append`), and a part whose
first or last character is no blank stops the trimming there.

A gap is one blank or more.  It is what has to stand between two words.
-/

set_option autoImplicit false

namespace FieldRules.Text

/-! ## Runs of characters -/

section Runs

variable {p : Char → Bool}

/-- A run of characters of a class ends where the rest starts with another character. -/
theorem takeWhile_append_of_stop {run rest : List Char} (inside : ∀ c ∈ run, p c = true)
    (stop : ∀ c ∈ rest.head?, p c = false) : (run ++ rest).takeWhile p = run := by
  rw [List.takeWhile_append_of_pos inside]
  cases rest with
  | nil => simp
  | cons c rest =>
    have outside : p c = false := stop c rfl
    simp [outside]

/-- What is left behind a run of characters of a class. -/
theorem dropWhile_append_of_stop {run rest : List Char} (inside : ∀ c ∈ run, p c = true)
    (stop : ∀ c ∈ rest.head?, p c = false) : (run ++ rest).dropWhile p = rest := by
  rw [List.dropWhile_append_of_pos inside]
  cases rest with
  | nil => rfl
  | cons c rest =>
    have outside : p c = false := stop c rfl
    simp [outside]

end Runs

/-- What holds of the first character holds of the front of a text. -/
theorem forall_mem_head?_cons {holds : Char → Prop} {first : Char} (atFirst : holds first)
    (rest : List Char) : ∀ c ∈ (first :: rest).head?, holds c := by
  rintro c ⟨⟩
  exact atFirst

/-! ## Trimming -/

theorem allBlank_iff (s : List Char) : allBlank s = true ↔ ∀ c ∈ s, isBlank c = true := by
  simp [allBlank]

theorem allBlank_nil : allBlank [] = true := rfl

theorem allBlank_reverse (s : List Char) : allBlank s.reverse = allBlank s := by
  simp [allBlank]

theorem trimStart_append {front rest : List Char} (blank : allBlank front = true) :
    trimStart (front ++ rest) = trimStart rest :=
  List.dropWhile_append_of_pos ((allBlank_iff front).mp blank)

theorem trimEnd_append {s tail : List Char} (blank : allBlank tail = true) :
    trimEnd (s ++ tail) = trimEnd s := by
  have turned : allBlank tail.reverse = true := by rw [allBlank_reverse]; exact blank
  have dropped : trimStart (tail.reverse ++ s.reverse) = trimStart s.reverse :=
    trimStart_append turned
  simpa [trimEnd, trimStart] using congrArg List.reverse dropped

/-- What is left of a text after its end blanks are dropped is a front of it. -/
theorem trimEnd_prefix (s : List Char) : trimEnd s <+: s := by
  obtain ⟨tail, shape, -⟩ := trimEnd_split s
  exact ⟨tail, shape.symm⟩

/-! ## Gaps -/

/-- A gap between two words: one blank or more. -/
def IsGap (s : List Char) : Prop := s ≠ [] ∧ allBlank s = true

theorem isGap_space : IsGap [' '] := ⟨by simp, by decide⟩

/-- A gap has a last blank. -/
theorem IsGap.split {gap : List Char} (isGap : IsGap gap) :
    ∃ front blank, gap = front ++ [blank] ∧ isBlank blank = true := by
  obtain ⟨nonempty, blank⟩ := isGap
  refine ⟨gap.dropLast, gap.getLast nonempty, (List.dropLast_concat_getLast nonempty).symm, ?_⟩
  exact (allBlank_iff gap).mp blank _ (List.getLast_mem nonempty)

theorem IsGap.head_blank {gap : List Char} (isGap : IsGap gap) (rest : List Char) :
    ∀ c ∈ (gap ++ rest).head?, isBlank c = true := by
  obtain ⟨nonempty, blank⟩ := isGap
  cases gap with
  | nil => exact absurd rfl nonempty
  | cons c gap =>
    exact forall_mem_head?_cons ((allBlank_iff _).mp blank c List.mem_cons_self) _

end FieldRules.Text
