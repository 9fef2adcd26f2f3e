import FieldRules.Proofs.Group.Registration
import FieldRules.Proofs.Rule.KeysGrammar
import FieldRules.Proofs.Rule.RequiresRoundTrip
import FieldRules.Proofs.Traversal

/-!
# Lists of keys are read back

A list of keys is written with a comma and a blank between two keys.  It is
written exactly when there are enough keys and each of them is plain
(`Draft.keysChars_eq_ok_iff`).

The written keys are a spelling of a list (`Expression.writtenSpelling`): its
pieces are the keys, each but the first with a blank in front.  A plain key holds
no comma and no blank, so the keys of the spelling are the written ones, in order
and with their repetitions (`Expression.ofText_writtenKeys`).
-/

set_option autoImplicit false

namespace FieldRules

/-! ## Keys -/

/-- A key that holds a character which ends a key in some rule. -/
def HoldsDelimiter (key : String) : Prop := ∃ c ∈ key.toList, Draft.isDelimiter c = true

instance (key : String) : Decidable (HoldsDelimiter key) :=
  decidable_of_iff (key.toList.any Draft.isDelimiter = true) List.any_eq_true

theorem isPlainKey_iff {key : String} : IsPlainKey key ↔ key ≠ "" ∧ ¬ HoldsDelimiter key := by
  simp [IsPlainKey, HoldsDelimiter]

/-- Keys that are not empty and hold no delimiter are plain. -/
theorem forall_isPlainKey {keys : List String} (filled : ∀ key ∈ keys, key ≠ "")
    (free : ∀ key ∈ keys, ¬ HoldsDelimiter key) : ∀ key ∈ keys, IsPlainKey key := by
  intro key member
  exact isPlainKey_iff.mpr ⟨filled key member, free key member⟩

theorem IsPlainKey.not_mem {key : String} (plain : IsPlainKey key) {c : Char}
    (delimiter : Draft.isDelimiter c = true) : c ∉ key.toList := by
  intro member
  rw [plain.2 c member] at delimiter
  exact absurd delimiter (by simp)

theorem IsPlainKey.not_blank {key : String} (plain : IsPlainKey key) :
    ∀ c ∈ key.toList, Text.isBlank c = false := by
  intro c member
  exact ((Expression.isKeyChar_iff c).mp (plain.isKey.2 c member)).1

namespace Draft

/-- A key with a delimiter is refused for it. -/
theorem keyChars_of_delimiter {key : String} (holds : HoldsDelimiter key) :
    keyChars (.text key) = .error (.delimiterInKey key) := by
  obtain ⟨c, member, delimiter⟩ := holds
  have filled : ¬ (key == "") = true := by
    rw [beq_iff_eq]
    rintro rfl
    exact absurd member (by simp)
  have found : key.toList.any isDelimiter = true := List.any_eq_true.mpr ⟨c, member, delimiter⟩
  exact (if_neg filled).trans (if_pos found)

/-- A key is accepted exactly when it is plain. -/
theorem keyChars_eq_ok_iff {key : String} {chars : List Char} :
    keyChars (.text key) = .ok chars ↔ IsPlainKey key ∧ chars = key.toList := by
  constructor
  · intro accepted
    have filled : key ≠ "" := by
      rintro rfl
      have refused : keyChars (.text "") = .error (.notKey (.text "")) := rfl
      exact absurd (refused.symm.trans accepted) (by simp)
    have free : ¬ HoldsDelimiter key := by
      intro holds
      exact absurd ((keyChars_of_delimiter holds).symm.trans accepted) (by simp)
    have plain := isPlainKey_iff.mpr ⟨filled, free⟩
    exact ⟨plain, (Except.ok.inj (plain.keyChars.symm.trans accepted)).symm⟩
  · rintro ⟨plain, rfl⟩
    exact plain.keyChars

/-! ## Written lists -/

/-- A list of keys as it is written. -/
def writtenKeys (kind : ListKind) (keys : List String) : List Char :=
  Expression.listWord kind ++ '(' :: List.intercalate [',', ' '] (keys.map String.toList)
    ++ [')', ';']

theorem keysChars_of_enough {kind : ListKind} {keys : List Value}
    (enough : kind.minimum ≤ keys.length) :
    keysChars kind keys = (keys.mapM keyChars).map fun parts =>
      Expression.listWord kind ++ '(' :: List.intercalate [',', ' '] parts ++ [')', ';'] := by
  unfold keysChars
  rw [if_neg (Nat.not_lt.mpr enough)]
  cases keys.mapM keyChars with
  | error fault => rfl
  | ok parts => rfl

theorem mapM_keyChars_of_plain {keys : List String} (plain : ∀ key ∈ keys, IsPlainKey key) :
    (keys.map Value.text).mapM keyChars = .ok (keys.map String.toList) := by
  rw [Traversal.mapM_eq_ok_iff, List.forall₂_map_left_iff, List.forall₂_map_right_iff,
    List.forall₂_same]
  exact fun key member => (plain key member).keyChars

theorem le_length_of_keysChars {kind : ListKind} {keys : List Value} {chars : List Char}
    (written : keysChars kind keys = .ok chars) : kind.minimum ≤ keys.length := by
  by_contra few
  have refused : keysChars kind keys = .error (.tooFewKeys kind keys.length) :=
    if_pos (Nat.lt_of_not_le few)
  exact absurd (refused.symm.trans written) (by simp)

/-- **A list of keys is written exactly when there are enough keys and each is plain.** -/
theorem keysChars_eq_ok_iff {kind : ListKind} {keys : List String} {chars : List Char} :
    keysChars kind (keys.map .text) = .ok chars ↔
      kind.minimum ≤ keys.length ∧ (∀ key ∈ keys, IsPlainKey key) ∧
        chars = writtenKeys kind keys := by
  constructor
  · intro written
    have enough := le_length_of_keysChars written
    have plain : ∀ key ∈ keys, IsPlainKey key := by
      rw [keysChars_of_enough enough] at written
      obtain ⟨read, parts, -⟩ := Traversal.exists_of_map_eq_ok written
      intro key member
      obtain ⟨accepted, here⟩ := Traversal.exists_mapM_eq_ok_iff.mp ⟨read, parts⟩ (.text key)
        (List.mem_map_of_mem member)
      exact (keyChars_eq_ok_iff.mp here).1
    rw [keysChars_of_enough enough, mapM_keyChars_of_plain plain] at written
    rw [List.length_map] at enough
    exact ⟨enough, plain, (Except.ok.inj written).symm⟩
  · rintro ⟨enough, plain, rfl⟩
    rw [keysChars_of_enough (by rwa [List.length_map]), mapM_keyChars_of_plain plain]
    rfl

/-- A list with a delimiter in some key is refused for the first such key, if no key is empty. -/
theorem exists_delimiter_of_keysChars {kind : ListKind} {keys : List String}
    (enough : kind.minimum ≤ keys.length) (filled : ∀ key ∈ keys, key ≠ "")
    (holds : ∃ key ∈ keys, HoldsDelimiter key) :
    ∃ key, keysChars kind (keys.map .text) = .error (.delimiterInKey key) := by
  rw [keysChars_of_enough (by rwa [List.length_map])]
  cases parts : (keys.map Value.text).mapM keyChars with
  | ok chars =>
    obtain ⟨key, member, delimiter⟩ := holds
    obtain ⟨accepted, read⟩ := Traversal.exists_mapM_eq_ok_iff.mp ⟨_, parts⟩ (.text key)
      (List.mem_map_of_mem member)
    exact absurd delimiter (isPlainKey_iff.mp (keyChars_eq_ok_iff.mp read).1).2
  | error fault =>
    obtain ⟨before, value, behind, shape, -, refused⟩ := Traversal.exists_of_mapM_eq_error parts
    have listed : value ∈ keys.map Value.text := by
      rw [shape]
      exact List.mem_append_right _ List.mem_cons_self
    obtain ⟨key, member, rfl⟩ := List.mem_map.mp listed
    refine ⟨key, ?_⟩
    by_cases delimiter : HoldsDelimiter key
    · rw [keyChars_of_delimiter delimiter] at refused
      rw [← Except.error.inj refused]
      rfl
    · have plain : IsPlainKey key := isPlainKey_iff.mpr ⟨filled key member, delimiter⟩
      exact absurd (plain.keyChars.symm.trans refused) (by simp)

end Draft

/-! ## Reading written lists -/

namespace Expression

/-- A first character can be put in front of a joined text. -/
theorem intercalate_cons_char (between : List Char) (c : Char) (part : List Char)
    (parts : List (List Char)) :
    List.intercalate between ((c :: part) :: parts) =
      c :: List.intercalate between (part :: parts) := by
  cases parts <;> simp

/-- Parts joined by a comma and a blank are parts with a blank in front, joined by a comma. -/
theorem intercalate_comma (part : List Char) (parts : List (List Char)) :
    List.intercalate [','] (part :: parts.map (' ' :: ·)) =
      List.intercalate [',', ' '] (part :: parts) := by
  induction parts generalizing part with
  | nil => simp
  | cons next parts ih =>
    rw [List.map_cons, List.intercalate_cons_cons, List.intercalate_cons_cons,
      intercalate_cons_char, ih next]
    simp

theorem trim_space (s : List Char) : Text.trim (' ' :: s) = Text.trim s := by
  have blank : Text.allBlank [' '] = true := by decide
  rw [Text.trim, ← List.singleton_append, Text.trimStart_append blank, Text.trim]

/-- The pieces of written keys: every key but the first has a blank in front. -/
def writtenPieces : List String → List (List Char)
  | [] => []
  | first :: rest => first.toList :: (rest.map String.toList).map (' ' :: ·)

theorem intercalate_writtenPieces (keys : List String) :
    List.intercalate [','] (writtenPieces keys) =
      List.intercalate [',', ' '] (keys.map String.toList) := by
  cases keys with
  | nil => rfl
  | cons first rest => exact intercalate_comma first.toList (rest.map String.toList)

/-- Each piece of written keys is a key, or a key with a blank in front. -/
theorem exists_key_of_piece {keys : List String} {piece : List Char}
    (member : piece ∈ writtenPieces keys) :
    ∃ key ∈ keys, piece = key.toList ∨ piece = ' ' :: key.toList := by
  cases keys with
  | nil => exact absurd member List.not_mem_nil
  | cons first rest =>
    rcases List.mem_cons.mp member with rfl | spaced
    · exact ⟨first, List.mem_cons_self, .inl rfl⟩
    · obtain ⟨chars, inRest, rfl⟩ := List.mem_map.mp spaced
      obtain ⟨key, listed, rfl⟩ := List.mem_map.mp inRest
      exact ⟨key, List.mem_cons_of_mem _ listed, .inr rfl⟩

theorem trim_writtenPieces {keys : List String} (plain : ∀ key ∈ keys, IsPlainKey key) :
    (writtenPieces keys).map Text.trim = keys.map String.toList := by
  have solid : ∀ key ∈ keys, Text.trim key.toList = key.toList := fun key listed =>
    Literal.trim_of_solid (plain key listed).not_blank
  cases keys with
  | nil => rfl
  | cons first rest =>
    obtain ⟨firstSolid, restSolid⟩ := List.forall_mem_cons.mp solid
    rw [writtenPieces, List.map_cons, List.map_cons, firstSolid, List.map_map, List.map_map]
    congr 1
    refine List.map_congr_left fun key listed => ?_
    rw [Function.comp_apply, Function.comp_apply, trim_space, restSolid key listed]

theorem writtenPieces_ne_nil {keys : List String} (nonempty : keys ≠ []) :
    writtenPieces keys ≠ [] := by
  obtain ⟨first, rest, rfl⟩ := List.exists_cons_of_ne_nil nonempty
  exact List.cons_ne_nil _ _

theorem noComma_writtenPieces {keys : List String} (plain : ∀ key ∈ keys, IsPlainKey key) :
    ∀ piece ∈ writtenPieces keys, ',' ∉ piece := by
  intro piece member
  obtain ⟨key, listed, rfl | rfl⟩ := exists_key_of_piece member
  · exact (plain key listed).not_mem (by decide)
  · rw [List.mem_cons, not_or]
    exact ⟨by decide, (plain key listed).not_mem (by decide)⟩

theorem filled_writtenPieces {keys : List String} (plain : ∀ key ∈ keys, IsPlainKey key) :
    ∀ piece ∈ writtenPieces keys, Text.trim piece ≠ [] := by
  intro piece member
  have trimmed : Text.trim piece ∈ keys.map String.toList :=
    trim_writtenPieces plain ▸ List.mem_map_of_mem member
  obtain ⟨key, listed, same⟩ := List.mem_map.mp trimmed
  rw [← same]
  exact (plain key listed).isKey.1

/-- The spelling of written keys. -/
def writtenSpelling (kind : ListKind) {keys : List String} (nonempty : keys ≠ [])
    (plain : ∀ key ∈ keys, IsPlainKey key) : ListSpelling where
  kind := kind
  beforeOpen := []
  pieces := writtenPieces keys
  behindClose := []
  beforeOpen_blank := Text.allBlank_nil
  behindClose_blank := Text.allBlank_nil
  pieces_ne_nil := writtenPieces_ne_nil nonempty
  noComma := noComma_writtenPieces plain
  filled := filled_writtenPieces plain

/-- **Written keys are read back, in order and with their repetitions.** -/
theorem ofText_writtenKeys {kind : ListKind} {keys : List String} (nonempty : keys ≠ [])
    (plain : ∀ key ∈ keys, IsPlainKey key) :
    ofText (String.ofList (Draft.writtenKeys kind keys)) = .keys kind keys := by
  have chars : (writtenSpelling kind nonempty plain).chars = Draft.writtenKeys kind keys := by
    simp [writtenSpelling, ListSpelling.chars, ListSpelling.body, ListSpelling.inside,
      intercalate_writtenPieces, Draft.writtenKeys]
  have listed : (writtenSpelling kind nonempty plain).keys = keys := by
    have opened : (writtenSpelling kind nonempty plain).keys =
        ((writtenPieces keys).map Text.trim).map String.ofList := by
      simp [writtenSpelling, ListSpelling.keys]
    rw [opened, trim_writtenPieces plain, List.map_map]
    simp [Function.comp_def]
  rw [ofText, String.toList_ofList, ← chars, ListSpelling.trim_chars]
  exact ofTrimmed_eq_keys_iff.mpr ⟨_, rfl, rfl, listed⟩

end Expression

/-! ## Whole rules -/

/-- The text of a list of keys as it is written. -/
def writtenList (kind : ListKind) (keys : List String) : String :=
  String.ofList (Draft.writtenKeys kind keys)

theorem write_list_eq_ok_iff {kind : ListKind} {keys : List String} {text : String} :
    (Draft.keysChars kind (keys.map .text)).map String.ofList = .ok text ↔
      kind.minimum ≤ keys.length ∧ (∀ key ∈ keys, IsPlainKey key) ∧
        text = writtenList kind keys := by
  constructor
  · intro written
    obtain ⟨inside, chars, same⟩ := Traversal.exists_of_map_eq_ok written
    obtain ⟨enough, plain, rfl⟩ := Draft.keysChars_eq_ok_iff.mp chars
    exact ⟨enough, plain, same.symm⟩
  · rintro ⟨enough, plain, rfl⟩
    rw [Draft.keysChars_eq_ok_iff.mpr ⟨enough, plain, rfl⟩]
    rfl

variable {schema : Schema} {kind : ListKind} {keys : List String}

theorem ofText_writtenList (enough : kind.minimum ≤ keys.length)
    (plain : ∀ key ∈ keys, IsPlainKey key) :
    Expression.ofText (writtenList kind keys) = .keys kind keys :=
  Expression.ofText_writtenKeys (Schema.ne_nil_of_minimum enough) plain

/-- A written choice of declared keys is read as it was. -/
theorem OnlyOne.read_writtenList (enough : ListKind.onlyOne.minimum ≤ keys.length)
    (plain : ∀ key ∈ keys, IsPlainKey key)
    (declared : ∀ key ∈ keys, schema.declares key = true) :
    OnlyOne.read schema (writtenList .onlyOne keys) =
      ⟨writtenList .onlyOne keys, .onlyOne, .ok ⟨keys⟩⟩ :=
  read_of_declared (ofText_writtenList enough plain) enough declared

/-- A written group of declared keys is read as it was, under any name. -/
theorem Group.read_writtenList (enough : ListKind.group.minimum ≤ keys.length)
    (plain : ∀ key ∈ keys, IsPlainKey key)
    (declared : ∀ key ∈ keys, schema.declares key = true) (name : String) :
    Group.read schema name (writtenList .group keys) =
      ⟨writtenList .group keys, .group, .ok ⟨name, keys⟩⟩ :=
  read_of_declared (ofText_writtenList enough plain) enough declared name

end FieldRules
