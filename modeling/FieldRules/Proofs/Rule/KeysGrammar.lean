import FieldRules.Proofs.Rule.RequiresGrammar

/-!
# The grammar of lists of keys

A list of keys is its opening word, pieces with commas between them in
parentheses, and the closing semicolon.  Blanks may stand on both sides of the
parentheses, and around each piece.  A `ListSpelling` is a choice of all these
parts.

The pieces may hold any character but a comma, so parentheses and semicolons
inside the list do no harm: the reader looks for the outermost parentheses from
both ends of the text.  What stands between them is cut into pieces in one way
only, so a text has at most one list of keys (`ofText_keys_iff`).
-/

set_option autoImplicit false

namespace FieldRules.Expression

/-! ## Lists spelled out -/

/-- A list of keys: the opening word, possibly blanks, pieces in parentheses, possibly blanks, and
the closing semicolon.  No piece holds a comma, and each holds more than blanks. -/
structure ListSpelling where
  kind : ListKind
  beforeOpen : List Char
  pieces : List (List Char)
  behindClose : List Char
  beforeOpen_blank : Text.allBlank beforeOpen = true
  behindClose_blank : Text.allBlank behindClose = true
  pieces_ne_nil : pieces ≠ []
  noComma : ∀ piece ∈ pieces, ',' ∉ piece
  filled : ∀ piece ∈ pieces, Text.trim piece ≠ []

namespace ListSpelling

/-- What stands between the parentheses: the pieces with a comma between two of them. -/
def inside (spelling : ListSpelling) : List Char := List.intercalate [','] spelling.pieces

/-- What stands between the opening word and the semicolon. -/
def body (spelling : ListSpelling) : List Char :=
  spelling.beforeOpen ++ ('(' :: (spelling.inside ++ [')']) ++ spelling.behindClose)

/-- The text of a list of keys. -/
def chars (spelling : ListSpelling) : List Char :=
  listWord spelling.kind ++ (spelling.body ++ [';'])

/-- The keys of a list: its pieces without the blanks at their ends. -/
def keys (spelling : ListSpelling) : List String :=
  spelling.pieces.map fun piece => String.ofList (Text.trim piece)

/-- The keys are as many as the commas between the parentheses, and one more. -/
theorem length_keys (spelling : ListSpelling) :
    spelling.keys.length = spelling.inside.count ',' + 1 := by
  have counted (first : List Char) (pieces : List (List Char))
      (noComma : ∀ piece ∈ first :: pieces, ',' ∉ piece) :
      (List.intercalate [','] (first :: pieces)).count ',' = pieces.length := by
    induction pieces generalizing first with
    | nil =>
      rw [List.intercalate_singleton, List.count_eq_zero.mpr (noComma first List.mem_cons_self)]
      rfl
    | cons next pieces ih =>
      obtain ⟨here, behind⟩ := List.forall_mem_cons.mp noComma
      rw [List.intercalate_cons_cons, List.count_append, List.count_append, ih next behind,
        List.count_eq_zero.mpr here, List.length_cons]
      simp [Nat.add_comm]
  obtain ⟨first, pieces, shape⟩ := List.exists_cons_of_ne_nil spelling.pieces_ne_nil
  have noComma := spelling.noComma
  rw [shape] at noComma
  rw [keys, inside, shape, counted first pieces noComma, List.length_map, List.length_cons]

end ListSpelling

/-! ## Pieces between commas -/

theorem not_mem_of_mem_splitOn {c : Char} {s piece : List Char} (member : piece ∈ s.splitOn c) :
    c ∉ piece := by
  induction s generalizing piece with
  | nil =>
    rw [List.splitOn_nil, List.mem_singleton] at member
    rw [member]
    exact List.not_mem_nil
  | cons d s ih =>
    rw [List.splitOn_cons_eq_if_modifyHead] at member
    split at member
    · rcases List.mem_cons.mp member with rfl | behind
      · exact List.not_mem_nil
      · exact ih behind
    · next other =>
      obtain ⟨first, rest, shape⟩ := List.exists_cons_of_ne_nil (List.splitOn_ne_nil c s)
      rw [shape, List.modifyHead_cons] at member
      rw [shape] at ih
      rcases List.mem_cons.mp member with rfl | behind
      · rw [List.mem_cons, not_or]
        exact ⟨fun same => other (beq_iff_eq.mpr same.symm), ih List.mem_cons_self⟩
      · exact ih (List.mem_cons_of_mem _ behind)

/-! ## Reading behind the opening word -/

theorem insideParentheses?_eq_some_iff {s inside : List Char} :
    insideParentheses? s = some inside ↔ s = '(' :: (inside ++ [')']) := by
  constructor
  · intro found
    unfold insideParentheses? at found
    split at found
    · next rest =>
      split at found
      · next closed =>
        obtain ⟨front, rfl⟩ := List.getLast?_eq_some_iff.mp (beq_iff_eq.mp closed)
        rw [List.dropLast_concat] at found
        rw [Option.some.inj found]
      · exact absurd found (by simp)
    · exact absurd found (by simp)
  · rintro rfl
    simp [insideParentheses?]

theorem ListSpelling.trim_body (spelling : ListSpelling) :
    Text.trim spelling.body = '(' :: (spelling.inside ++ [')']) := by
  rw [Text.trim, body, Text.trimStart_append spelling.beforeOpen_blank, List.cons_append,
    Text.trimStart_eq_self (Text.forall_mem_head?_cons (by decide) _), ← List.cons_append,
    Text.trimEnd_append spelling.behindClose_blank]
  apply Text.trimEnd_eq_self
  intro c last
  rw [← List.cons_append, List.getLast?_concat] at last
  obtain rfl : ')' = c := Option.some.inj last
  decide

/-- There is no blank around the text of a list. -/
theorem ListSpelling.trim_chars (spelling : ListSpelling) :
    Text.trim spelling.chars = spelling.chars := by
  apply Text.trim_eq_self
  · unfold chars
    cases spelling.kind with
    | onlyOne => exact Text.forall_mem_head?_cons (by decide) _
    | group => exact Text.forall_mem_head?_cons (by decide) _
  · intro c last
    rw [chars, ← List.append_assoc, List.getLast?_concat] at last
    obtain rfl : ';' = c := Option.some.inj last
    decide

/-- A list of keys that is spelled out is read with its keys. -/
theorem readKeys_body (spelling : ListSpelling) (kind : ListKind) :
    readKeys kind (spelling.body ++ [';']) = .keys kind spelling.keys := by
  have listed : listedKeys spelling.inside = spelling.pieces.map Text.trim := by
    rw [listedKeys, ListSpelling.inside,
      List.splitOn_intercalate ',' spelling.noComma spelling.pieces_ne_nil]
  have filled : (spelling.pieces.map Text.trim).any (·.isEmpty) = false := by
    rw [List.any_map, List.any_eq_false]
    intro piece member
    simpa using spelling.filled piece member
  unfold readKeys
  rw [List.getLast?_concat, List.dropLast_concat, spelling.trim_body,
    insideParentheses?_eq_some_iff.mpr rfl]
  simp [listed, filled, ListSpelling.keys, Function.comp_def]

/-- Behind the opening word, a list of keys is read or something is wrong with it. -/
theorem readKeys_cases (kind : ListKind) (s : List Char) :
    (∃ spelling : ListSpelling, spelling.kind = kind ∧ spelling.body ++ [';'] = s ∧
      readKeys kind s = .keys kind spelling.keys) ∨
    ∃ fault, readKeys kind s = .malformedKeys kind fault := by
  by_cases closed : s.getLast? = some ';'
  · obtain ⟨body, rfl⟩ := List.getLast?_eq_some_iff.mp closed
    cases opened : insideParentheses? (Text.trim body) with
    | none => exact .inr ⟨.parentheses, by simp [readKeys, opened]⟩
    | some inside =>
      by_cases empty : ∃ piece ∈ inside.splitOn ',', Text.trim piece = []
      · obtain ⟨piece, member, blank⟩ := empty
        have found : (listedKeys inside).any (·.isEmpty) = true :=
          List.any_eq_true.mpr ⟨[], blank ▸ List.mem_map_of_mem member, rfl⟩
        exact .inr ⟨.emptyKey, by simp [readKeys, opened, found]⟩
      · left
        have shape := insideParentheses?_eq_some_iff.mp opened
        obtain ⟨front, tail, cut, frontBlank, tailBlank⟩ := Text.trim_split body
        let spelling : ListSpelling :=
          { kind, beforeOpen := front, pieces := inside.splitOn ',', behindClose := tail
            beforeOpen_blank := frontBlank
            behindClose_blank := tailBlank
            pieces_ne_nil := List.splitOn_ne_nil _ _
            noComma := fun piece => not_mem_of_mem_splitOn
            filled := fun piece member blank => empty ⟨piece, member, blank⟩ }
        have same : spelling.body = body := by
          rw [ListSpelling.body, ListSpelling.inside, List.intercalate_splitOn, ← shape,
            ← List.append_assoc]
          exact cut.symm
        exact ⟨spelling, rfl, by rw [same], same ▸ readKeys_body spelling kind⟩
  · exact .inr ⟨.terminator, by simp [readKeys, closed]⟩

/-! ## Whole texts -/

theorem ofTrimmed_listWord (kind : ListKind) (rest : List Char) :
    ofTrimmed (listWord kind ++ rest) = readKeys kind rest := by
  cases kind <;> rfl

theorem readRequires_ne_keys (s : List Char) (kind : ListKind) (keys : List String) :
    readRequires s ≠ .keys kind keys := by
  unfold readRequires
  split <;> simp

/-- A trimmed text that opens with no word of a rule is not recognised. -/
theorem ofTrimmed_eq_unknownKeyword {s : List Char} (noIf : ¬ ifWord <+: s)
    (noList : ∀ kind, ¬ listWord kind <+: s) : ofTrimmed s = .unknownKeyword := by
  have absent {word : List Char} (other : ¬ word <+: s) : after? word s = none := by
    rw [Option.eq_none_iff_forall_ne_some]
    intro rest found
    exact other ⟨rest, (after?_eq_some_iff.mp found).symm⟩
  simp only [ofTrimmed, absent noIf, absent (noList .onlyOne), absent (noList .group)]

/-- A trimmed text that is recognised as a list opens with the word of the list. -/
theorem listWord_prefix_of_keys {s : List Char} {kind : ListKind} {keys : List String}
    (recognised : ofTrimmed s = .keys kind keys) : listWord kind <+: s := by
  have ofKind {listed : ListKind} {rest : List Char}
      (read : readKeys listed rest = .keys kind keys) : listed = kind := by
    rcases readKeys_cases listed rest with ⟨spelling, -, -, whole⟩ | ⟨fault, malformed⟩
    · exact (Expression.keys.inj (whole.symm.trans read)).1
    · exact absurd (malformed.symm.trans read) (by simp)
  unfold ofTrimmed at recognised
  split at recognised
  · exact absurd recognised (readRequires_ne_keys _ _ _)
  · split at recognised
    · next word =>
      rw [← ofKind recognised]
      exact ⟨_, (after?_eq_some_iff.mp word).symm⟩
    · split at recognised
      · next word =>
        rw [← ofKind recognised]
        exact ⟨_, (after?_eq_some_iff.mp word).symm⟩
      · exact absurd recognised (by simp)

/-- A trimmed text is recognised with the keys of its spelling as a list. -/
theorem ofTrimmed_eq_keys_iff {s : List Char} {kind : ListKind} {keys : List String} :
    ofTrimmed s = .keys kind keys ↔
      ∃ spelling : ListSpelling, spelling.chars = s ∧ spelling.kind = kind ∧
        spelling.keys = keys := by
  constructor
  · intro recognised
    obtain ⟨rest, rfl⟩ := listWord_prefix_of_keys recognised
    rw [ofTrimmed_listWord] at recognised
    rcases readKeys_cases kind rest with ⟨spelling, rfl, rfl, whole⟩ | ⟨fault, malformed⟩
    · exact ⟨spelling, rfl, rfl, (Expression.keys.inj (whole.symm.trans recognised)).2⟩
    · exact absurd (malformed.symm.trans recognised) (by simp)
  · rintro ⟨spelling, rfl, rfl, rfl⟩
    rw [ListSpelling.chars, ofTrimmed_listWord, readKeys_body]

/-- **A text is recognised as a list of keys exactly when it can be spelled as one, and then with
the trimmed pieces between its commas.**  A text that opens with the word of a list and has no
spelling is malformed, and a text that opens with no word of a rule is not recognised. -/
theorem ofText_keys_iff (text : String) :
    (∀ (kind : ListKind) (keys : List String), ofText text = .keys kind keys ↔
      ∃ spelling : ListSpelling, spelling.chars = Text.trim text.toList ∧
        spelling.kind = kind ∧ spelling.keys = keys ∧
        keys.length = spelling.inside.count ',' + 1) ∧
    (∀ kind : ListKind, listWord kind <+: Text.trim text.toList →
      (¬ ∃ spelling : ListSpelling, spelling.chars = Text.trim text.toList ∧
        spelling.kind = kind) →
      (∃ fault, ofText text = .malformedKeys kind fault) ∧
        (ofText text).kind = kind.toKind ∧
        ∀ expected, ((ofText text).refusal expected).code = .malformed) ∧
    (¬ ifWord <+: Text.trim text.toList →
      (∀ kind : ListKind, ¬ listWord kind <+: Text.trim text.toList) →
      ofText text = .unknownKeyword ∧ (ofText text).kind = .invalid ∧
        ∀ expected, ((ofText text).refusal expected).code = .unknownKeyword) := by
  refine ⟨fun kind keys => ?_, fun kind opens unspelled => ?_, fun noIf noList => ?_⟩
  · rw [ofText, ofTrimmed_eq_keys_iff]
    constructor
    · rintro ⟨spelling, shape, ofKind, rfl⟩
      exact ⟨spelling, shape, ofKind, rfl, spelling.length_keys⟩
    · rintro ⟨spelling, shape, ofKind, listed, -⟩
      exact ⟨spelling, shape, ofKind, listed⟩
  · obtain ⟨rest, shape⟩ := opens
    have read : ofText text = readKeys kind rest := by
      rw [ofText, ← shape, ofTrimmed_listWord]
    rcases readKeys_cases kind rest with ⟨spelling, rfl, rfl, -⟩ | ⟨fault, malformed⟩
    · exact absurd ⟨spelling, shape, rfl⟩ unspelled
    · rw [read, malformed]
      exact ⟨⟨fault, rfl⟩, rfl, fun _ => rfl⟩
  · have unknown : ofText text = .unknownKeyword := ofTrimmed_eq_unknownKeyword noIf noList
    rw [unknown]
    exact ⟨rfl, rfl, fun _ => rfl⟩

example : ofText " Group (a;), ( b c ) ,a)\t;" = .keys .group ["a;)", "( b c )", "a"] := by
  decide +kernel

end FieldRules.Expression
