import FieldRules.Proofs.Rule.ReadRequires
import FieldRules.Proofs.Rule.WrittenKeys
import FieldRules.Unchecked

/-!
# Rules that were read are written again

What a reader returns need not have come from the writer: its text may be spaced,
quoted and spelled in other ways, and the reader takes keys that the writer does
not.  Still, what was read fulfils nearly all conditions of the writer
(`Requires.WasRead`).  The first literal of a requirement holds no consequent,
since it was the shortest one, and a part of it holds none either.

So two faults are left, a key with a character that ends a key in some other
rule, and a fraction too large for a finite number (`Dependency.IsUnwritable`).
Without them, a dependency that was read is written, and reading it again gives
the same dependency (`Unchecked.ComesBack`).
-/

set_option autoImplicit false

namespace FieldRules

open Expression (IsKey HoldsConsequent)

/-! ## What was recognised -/

namespace Expression

variable {text : String}

theorem ne_empty_of_isKey {key : String} (isKey : IsKey key.toList) : key ≠ "" := by
  rintro rfl
  exact isKey.1 rfl

/-- The sides of a requirement have keys, and its first literal holds no consequent. -/
theorem sides_of_requires {prerequisite dependant : Side}
    (recognised : ofText text = .requires prerequisite dependant) :
    IsKey prerequisite.key.toList ∧ IsKey dependant.key.toList ∧
      ∀ content, prerequisite.literal = some content → ¬ HoldsConsequent content.toList := by
  obtain ⟨rest, left, right, -, found, rfl, rfl⟩ := ofTrimmed_eq_requires_iff.mp recognised
  refine ⟨?_, ?_, ?_⟩
  · obtain ⟨spelling, -, rfl, -⟩ := exists_spelling found
    simpa [side] using spelling.side_key
  · obtain ⟨spelling, -, -, rfl⟩ := exists_spelling found
    simpa [side] using spelling.consequent.side_key
  · intro content literal
    obtain ⟨chars, here, rfl⟩ := Option.map_eq_some_iff.mp literal
    rw [String.toList_ofList]
    exact not_holdsConsequent_of_sides? found here

/-- No key of a list that was recognised is empty. -/
theorem filled_of_keys {kind : ListKind} {keys : List String}
    (recognised : ofText text = .keys kind keys) : ∀ key ∈ keys, key ≠ "" := by
  obtain ⟨spelling, -, -, rfl⟩ := ofTrimmed_eq_keys_iff.mp recognised
  intro key member
  obtain ⟨piece, listed, rfl⟩ := List.mem_map.mp member
  simpa using spelling.filled piece listed

end Expression

/-! ## Dependencies that cannot be written -/

namespace Dependency

/-- The kind of a dependency. -/
def kind : Dependency → Kind
  | .requires _ => .requires
  | .onlyOne _ => .onlyOne
  | .group _ => .group

/-- The keys of a dependency. -/
def keys : Dependency → List String
  | .requires rule => rule.keys
  | .onlyOne rule => rule.keys
  | .group rule => rule.keys

/-- The literals of a dependency. -/
def values : Dependency → List Literal
  | .requires rule => rule.prerequisiteValue.toList ++ rule.dependantValue.toList
  | .onlyOne _ | .group _ => []

/-- A key holds a character that ends a key, or a literal is no finite number. -/
def IsUnwritable (dependency : Dependency) : Prop :=
  (∃ key ∈ dependency.keys, HoldsDelimiter key) ∨
    ∃ number, .float number ∈ dependency.values ∧ number.isFinite = false

end Dependency

/-- The faults of a single part: a character in a key, or a number that is not finite. -/
inductive WritingFault.IsOfPart : WritingFault → Prop where
  | delimiter (key : String) : IsOfPart (.delimiterInKey key)
  | notFinite (number : Binary64) : IsOfPart (.notFinite number)

namespace Requires

/-- A requirement that was read for a schema: its keys are different declared keys, and its literals
have the types of their properties, or are no finite numbers. -/
structure WasRead (rule : Requires) (schema : Schema) : Prop where
  prerequisiteDeclared : schema.declares rule.prerequisiteKey = true
  dependantDeclared : schema.declares rule.dependantKey = true
  prerequisiteFilled : rule.prerequisiteKey ≠ ""
  dependantFilled : rule.dependantKey ≠ ""
  different : rule.prerequisiteKey ≠ rule.dependantKey
  prerequisiteFits : ∀ literal ∈ rule.prerequisiteValue,
    literal.Fits (schema.typeOf rule.prerequisiteKey) ∨
      ∃ number, literal = .float number ∧ number.isFinite = false
  dependantFits : ∀ literal ∈ rule.dependantValue,
    literal.Fits (schema.typeOf rule.dependantKey) ∨
      ∃ number, literal = .float number ∧ number.isFinite = false
  free : ∀ content, rule.prerequisiteValue = some (.text content) →
    ¬ HoldsConsequent content.toList

variable {rule : Requires} {schema : Schema}

/-- A literal that was read for a side is read from the text of the side. -/
theorem exists_readChars {side : Side} {literal : Literal}
    (read : schema.readSide side = .ok (some literal)) :
    ∃ content, side.literal = some content ∧
      Literal.readChars (schema.typeOf side.key) content.toList = .ok (some literal) := by
  unfold Schema.readSide Literal.read at read
  split at read
  · exact absurd read (by simp)
  · next content present => exact ⟨content, present, read⟩

theorem wasRead_of_read {text : String} {outcome : Outcome Requires}
    (read : Requires.read schema text = .ok outcome) (success : outcome.result = .ok rule) :
    rule.WasRead schema := by
  obtain ⟨prerequisite, dependant, recognised, relates, firstKey, secondKey, first, second⟩ :=
    exists_sides_of_read read success
  obtain ⟨isKey, dependantIsKey, free⟩ := Expression.sides_of_requires recognised
  have fits {side : Side} {value : Option Literal} (here : schema.readSide side = .ok value) :
      ∀ literal ∈ value, literal.Fits (schema.typeOf side.key) ∨
        ∃ number, literal = .float number ∧ number.isFinite = false := by
    rintro literal rfl
    obtain ⟨content, -, typed⟩ := exists_readChars here
    exact Literal.fits_of_readChars typed
  refine ⟨?_, ?_, ?_, ?_, ?_, ?_, ?_, ?_⟩
  · rw [firstKey]
    exact relates.prerequisiteDeclared
  · rw [secondKey]
    exact relates.dependantDeclared
  · rw [firstKey]
    exact Expression.ne_empty_of_isKey isKey
  · rw [secondKey]
    exact Expression.ne_empty_of_isKey dependantIsKey
  · rw [firstKey, secondKey]
    exact relates.different
  · rw [firstKey]
    exact fits first
  · rw [secondKey]
    exact fits second
  · intro content value holds
    rw [value] at first
    obtain ⟨literal, present, typed⟩ := exists_readChars first
    exact free literal present (holds.of_part (Literal.part_of_readChars typed))

theorem WasRead.fits (wasRead : rule.WasRead schema)
    (writable : ¬ (Dependency.requires rule).IsUnwritable) : rule.FitsSchema schema := by
  obtain ⟨noDelimiter, finite⟩ := not_or.mp writable
  have plain {key : String} (filled : key ≠ "") (member : key ∈ rule.keys) : IsPlainKey key :=
    isPlainKey_iff.mpr ⟨filled, fun holds => noDelimiter ⟨key, member, holds⟩⟩
  have typed {literal : Literal} {type : Option DataType}
      (fits : literal.Fits type ∨ ∃ number, literal = .float number ∧ number.isFinite = false)
      (member : literal ∈ (Dependency.requires rule).values) : literal.Fits type := by
    rcases fits with fits | ⟨number, rfl, infinite⟩
    · exact fits
    · exact absurd ⟨number, member, infinite⟩ finite
  exact {
    prerequisiteDeclared := wasRead.prerequisiteDeclared
    dependantDeclared := wasRead.dependantDeclared
    prerequisitePlain := plain wasRead.prerequisiteFilled List.mem_cons_self
    dependantPlain :=
      plain wasRead.dependantFilled (List.mem_cons_of_mem _ List.mem_cons_self)
    different := wasRead.different
    prerequisiteFits := fun literal value => typed (wasRead.prerequisiteFits literal value)
      (List.mem_append_left _ (Option.mem_toList.mpr value))
    dependantFits := fun literal value => typed (wasRead.dependantFits literal value)
      (List.mem_append_right _ (Option.mem_toList.mpr value)) }

/-- A literal of a requirement that was read can be written, or it is no finite number. -/
theorem writable_or_notFinite {type : Option DataType} {value : Option Literal}
    (fits : ∀ literal ∈ value, literal.Fits type ∨
      ∃ number, literal = .float number ∧ number.isFinite = false) :
    (∀ literal ∈ value, literal.IsWritable) ∨
      ∃ number, Draft.literalChars (Literal.valueOf value) = .error (.notFinite number) := by
  cases value with
  | none => exact .inl fun literal present => absurd present (by simp)
  | some literal =>
    rcases fits literal rfl with fits | ⟨number, rfl, infinite⟩
    · left
      rintro _ ⟨⟩
      exact fits.isWritable
    · have refused : ¬ number.isFinite = true := by simp [infinite]
      exact .inr ⟨number, if_neg refused⟩

/-- A requirement that was read is refused for one of its parts, or its parts can be written. -/
theorem WasRead.exists_fault_or_isPlain (wasRead : rule.WasRead schema) :
    (∃ fault : WritingFault, fault.IsOfPart ∧ (Dependency.requires rule).write = .error fault) ∨
      rule.IsPlain := by
  have different : Value.same (.text rule.prerequisiteKey) (.text rule.dependantKey) = false := by
    rw [Value.same_text]
    exact beq_eq_false_iff_ne.mpr wasRead.different
  have free (content : String) (value : Literal.valueOf rule.prerequisiteValue = .text content) :
      Draft.embedsConsequent content.toList = false := by
    rw [← Bool.not_eq_true, Expression.embedsConsequent_iff]
    exact wasRead.free content (text_of_valueOf value)
  have written : (Dependency.requires rule).write =
      (Draft.requiresChars (.text rule.prerequisiteKey) (.text rule.dependantKey)
        (Literal.valueOf rule.prerequisiteValue) (Literal.valueOf rule.dependantValue)).map
          String.ofList := rfl
  rw [requiresChars_of_free different free] at written
  -- The parts are looked at in the order in which they are written.
  by_cases firstKey : HoldsDelimiter rule.prerequisiteKey
  · rw [Draft.keyChars_of_delimiter firstKey] at written
    exact .inl ⟨_, .delimiter _, written⟩
  have firstPlain := isPlainKey_iff.mpr ⟨wasRead.prerequisiteFilled, firstKey⟩
  rw [firstPlain.keyChars] at written
  rcases writable_or_notFinite wasRead.prerequisiteFits with firstValue | ⟨number, refused⟩
  swap
  · rw [refused] at written
    exact .inl ⟨_, .notFinite number, written⟩
  rw [Literal.literalChars_valueOf firstValue] at written
  by_cases secondKey : HoldsDelimiter rule.dependantKey
  · rw [Draft.keyChars_of_delimiter secondKey] at written
    exact .inl ⟨_, .delimiter _, written⟩
  have secondPlain := isPlainKey_iff.mpr ⟨wasRead.dependantFilled, secondKey⟩
  rw [secondPlain.keyChars] at written
  rcases writable_or_notFinite wasRead.dependantFits with secondValue | ⟨number, refused⟩
  swap
  · rw [refused] at written
    exact .inl ⟨_, .notFinite number, written⟩
  exact .inr ⟨firstPlain, secondPlain, wasRead.different, firstValue, secondValue⟩

/-- A requirement whose parts can be written is not unwritable. -/
theorem IsPlain.not_isUnwritable (plain : rule.IsPlain) :
    ¬ (Dependency.requires rule).IsUnwritable := by
  rintro (⟨key, member, holds⟩ | ⟨number, member, infinite⟩)
  · rcases List.mem_pair.mp member with rfl | rfl
    · exact (isPlainKey_iff.mp plain.prerequisiteKey).2 holds
    · exact (isPlainKey_iff.mp plain.dependantKey).2 holds
  · have writable : (Literal.float number).IsWritable := by
      rcases List.mem_append.mp member with first | second
      · exact plain.prerequisiteValue _ (Option.mem_toList.mp first)
      · exact plain.dependantValue _ (Option.mem_toList.mp second)
    exact absurd (infinite.symm.trans writable) (by simp)

/-- No text of a requirement that was read is blank. -/
theorem WasRead.shown (wasRead : rule.WasRead schema) {content : String}
    (member : .text content ∈ (Dependency.requires rule).values) :
    Text.allBlank content.toList = false := by
  have ofFits {type : Option DataType} (fits : (Literal.text content).Fits type ∨
      ∃ number, Literal.text content = .float number ∧ number.isFinite = false) :
      Text.allBlank content.toList = false := by
    rcases fits with fits | ⟨number, same, -⟩
    · exact fits.2
    · exact absurd same (by simp)
  rcases List.mem_append.mp member with first | second
  · exact ofFits (wasRead.prerequisiteFits _ (Option.mem_toList.mp first))
  · exact ofFits (wasRead.dependantFits _ (Option.mem_toList.mp second))

end Requires

/-! ## Lists of keys -/

theorem exists_list_of_onlyOne {schema : Schema} {text : String} {rule : OnlyOne}
    (read : (OnlyOne.read schema text).result = .ok rule) :
    Expression.ofText text = .keys .onlyOne rule.keys ∧
      ListKind.onlyOne.minimum ≤ rule.keys.length ∧
      ∀ key ∈ rule.keys, schema.declares key = true := by
  unfold OnlyOne.read Expression.toOnlyOne at read
  split at read
  · next listed recognised =>
    obtain ⟨rfl, enough, declared⟩ := Expression.eq_of_map_resolveKeys read
    exact ⟨recognised, enough, declared⟩
  · exact absurd read (by simp)

/-- A list with a delimiter in some key has no text. -/
theorem exists_fault_of_list {kind : ListKind} {keys : List String}
    (enough : kind.minimum ≤ keys.length) (filled : ∀ key ∈ keys, key ≠ "")
    (holds : ∃ key ∈ keys, HoldsDelimiter key) :
    ∃ fault : WritingFault, fault.IsOfPart ∧
      (Draft.keysChars kind (keys.map .text)).map String.ofList = .error fault := by
  obtain ⟨key, refused⟩ := Draft.exists_delimiter_of_keysChars enough filled holds
  exact ⟨_, .delimiter key, by rw [refused]; rfl⟩

/-! ## The operations -/

namespace Unchecked

theorem result_write (draft : Draft) :
    (write draft).result = draft.write.mapError Refusal.ofWriting := by
  unfold write
  cases draft.write with
  | error fault => rfl
  | ok text => rfl

theorem result_write_eq_ok_iff {draft : Draft} {text : String} :
    (write draft).result = .ok text ↔ draft.write = .ok text := by
  rw [result_write]
  exact Traversal.mapError_eq_ok_iff

/-- What comes of writing a dependency and of reading its text with a reader. -/
structure ComesBack (reader : String → Attempt (Outcome Dependency)) (dependency : Dependency) :
    Prop where
  /-- The writer refuses the dependency as an argument exactly when a key holds a delimiter or a
  literal is no finite number. -/
  refused : (∃ fault, (write dependency.toDraft).result = .error (.argument fault)) ↔
    dependency.IsUnwritable
  /-- Otherwise it is written, and its text is read as the same dependency, of its own kind. -/
  returned : ¬ dependency.IsUnwritable → ∃ composed again,
    (write dependency.toDraft).result = .ok composed ∧ (reader composed).result = .ok again ∧
      again.result = .ok dependency ∧ again.kind = dependency.kind
  /-- The first literal of a requirement holds no consequent. -/
  free : ∀ rule content, dependency = .requires rule →
    rule.prerequisiteValue = some (.text content) → ¬ HoldsConsequent content.toList
  /-- No text among the literals is blank. -/
  shown : ∀ content, .text content ∈ dependency.values → Text.allBlank content.toList = false

/-- The writer refuses an argument exactly when the dependency has a fault of a single part, if all
other dependencies are written. -/
theorem refused_iff {dependency : Dependency}
    (faulty : dependency.IsUnwritable →
      ∃ fault : WritingFault, fault.IsOfPart ∧ dependency.write = .error fault)
    (written : ¬ dependency.IsUnwritable → ∃ text, dependency.write = .ok text) :
    (∃ fault, (write dependency.toDraft).result = .error (.argument fault)) ↔
      dependency.IsUnwritable := by
  have opened : (write dependency.toDraft).result =
      dependency.write.mapError Refusal.ofWriting := result_write _
  rw [opened]
  constructor
  · rintro ⟨fault, refused⟩
    by_contra writable
    obtain ⟨text, composed⟩ := written writable
    exact absurd refused (by simp [composed, Except.mapError])
  · intro unwritable
    obtain ⟨fault, isOfPart, refused⟩ := faulty unwritable
    refine ⟨.writing fault, ?_⟩
    rw [refused]
    cases isOfPart with
    | delimiter key => rfl
    | notFinite number => rfl

variable {schema : Schema} {reader : String → Attempt (Outcome Dependency)}

theorem requires_comesBack {rule : Requires} (wasRead : rule.WasRead schema)
    (reads : ∀ text outcome, Requires.read schema text = .ok outcome →
      (reader text).result = .ok (outcome.map .requires)) :
    ComesBack reader (.requires rule) := by
  have free (content : String) : ¬ rule.Embeds content := fun embeds =>
    wasRead.free content embeds.1 embeds.2
  have returned (writable : ¬ (Dependency.requires rule).IsUnwritable) :
      ∃ composed, (Dependency.requires rule).write = .ok composed ∧
        (reader composed).result = .ok ⟨composed, .requires, .ok (.requires rule)⟩ := by
    have fits := wasRead.fits writable
    refine ⟨rule.text fits.isPlain, Requires.write_of_free fits.isPlain free, ?_⟩
    exact reads _ _ (Requires.read_text fits free)
  constructor
  case refused =>
    refine refused_iff (fun unwritable => ?_) fun writable => ?_
    · rcases wasRead.exists_fault_or_isPlain with faulty | plain
      · exact faulty
      · exact absurd unwritable plain.not_isUnwritable
    · obtain ⟨composed, written, -⟩ := returned writable
      exact ⟨composed, written⟩
  case returned =>
    intro writable
    obtain ⟨composed, written, back⟩ := returned writable
    refine ⟨composed, _, ?_, back, rfl, rfl⟩
    rw [result_write]
    exact congrArg (Except.mapError Refusal.ofWriting) written
  case free =>
    rintro _ content ⟨⟩ value
    exact wasRead.free content value
  case shown => exact fun content => wasRead.shown

/-- A list of keys of either kind comes back, if its reader reads it back. -/
theorem list_comesBack {kind : ListKind} {dependency : Dependency}
    (enough : kind.minimum ≤ dependency.keys.length) (filled : ∀ key ∈ dependency.keys, key ≠ "")
    (noValues : dependency.values = [])
    (writes : dependency.write =
      (Draft.keysChars kind (dependency.keys.map .text)).map String.ofList)
    (reads : (∀ key ∈ dependency.keys, IsPlainKey key) →
      (reader (writtenList kind dependency.keys)).result =
        .ok ⟨writtenList kind dependency.keys, dependency.kind, .ok dependency⟩)
    (noRequirement : ∀ rule, dependency ≠ .requires rule) : ComesBack reader dependency := by
  have plain (writable : ¬ dependency.IsUnwritable) : ∀ key ∈ dependency.keys, IsPlainKey key :=
    forall_isPlainKey filled fun key member holds => writable (.inl ⟨key, member, holds⟩)
  have returned (writable : ¬ dependency.IsUnwritable) :
      dependency.write = .ok (writtenList kind dependency.keys) := by
    rw [writes, write_list_eq_ok_iff]
    exact ⟨enough, plain writable, rfl⟩
  constructor
  case refused =>
    refine refused_iff (fun unwritable => ?_) fun writable => ⟨_, returned writable⟩
    rw [writes]
    rcases unwritable with holds | ⟨number, member, -⟩
    · exact exists_fault_of_list enough filled holds
    · rw [noValues] at member
      exact absurd member List.not_mem_nil
  case returned =>
    intro writable
    refine ⟨_, _, ?_, reads (plain writable), rfl, rfl⟩
    rw [result_write]
    exact congrArg (Except.mapError Refusal.ofWriting) (returned writable)
  case free => exact fun rule content same => absurd same (noRequirement rule)
  case shown =>
    intro content member
    rw [noValues] at member
    exact absurd member List.not_mem_nil

theorem onlyOne_comesBack {text : String} {rule : OnlyOne}
    (read : (OnlyOne.read schema text).result = .ok rule)
    (reads : ∀ text, (reader text).result = .ok ((OnlyOne.read schema text).map .onlyOne)) :
    ComesBack reader (.onlyOne rule) := by
  obtain ⟨recognised, enough, declared⟩ := exists_list_of_onlyOne read
  have filled := Expression.filled_of_keys recognised
  refine list_comesBack enough filled rfl rfl (fun plain => ?_) (by simp)
  have back := OnlyOne.read_writtenList enough plain declared
  exact (reads _).trans
    (congrArg (fun outcome : Outcome OnlyOne => Except.ok (outcome.map Dependency.onlyOne)) back)

theorem group_comesBack {name text : String} {rule : Group}
    (read : (Group.read schema name text).result = .ok rule)
    (reads : ∀ text, (reader text).result = .ok ((Group.read schema name text).map .group)) :
    ComesBack reader (.group rule) := by
  obtain ⟨rfl, kind, recognised, enough, declared⟩ := Schema.exists_list_of_group read
  have filled := Expression.filled_of_keys recognised
  -- The text may have announced a choice, which has more keys than a group needs.
  have enoughKeys : ListKind.group.minimum ≤ rule.keys.length := by
    cases kind with
    | onlyOne => exact Nat.le_of_succ_le enough
    | group => exact enough
  refine list_comesBack enoughKeys filled rfl rfl (fun plain => ?_) (by simp)
  have back := Group.read_writtenList enoughKeys plain declared rule.name
  exact (reads _).trans
    (congrArg (fun outcome : Outcome Group => Except.ok (outcome.map Dependency.group)) back)

theorem result_readLike_onlyOne {like : Draft}
    (isChoice : (∃ keys, like = .onlyOne keys) ∨ ∃ value, like = .other value) (text : String) :
    (readLike (.schema schema) like text).result =
      .ok ((OnlyOne.read schema text).map .onlyOne) := by
  rcases isChoice with ⟨keys, rfl⟩ | ⟨value, rfl⟩ <;> rfl

theorem result_readLike_requires (first second firstValue secondValue : Value) (text : String) :
    (readLike (.schema schema) (.requires first second firstValue secondValue) text).result =
      ((Requires.read schema text).map (Outcome.map .requires)).mapError .digits := by
  have opened : readLike (.schema schema) (.requires first second firstValue secondValue) text =
      (Attempt.ofExcept .digits (Requires.read schema text)).andThen
        fun outcome => pure (outcome.map .requires) := rfl
  rw [opened]
  cases Requires.read schema text with
  | error fault => rfl
  | ok outcome => rfl

theorem exists_dependency_of_map {α : Type} {wrap : α → Dependency} {outcome : Outcome α}
    {dependency : Dependency} (success : (outcome.map wrap).result = .ok dependency) :
    ∃ rule, outcome.result = .ok rule ∧ dependency = wrap rule := by
  obtain ⟨rule, result, same⟩ := Traversal.exists_of_map_eq_ok success
  exact ⟨rule, result, same.symm⟩

/-- **What was read is written and read again.**  A dependency that was read from any text by the
reader for a draft is refused by the writer for a delimiter in a key or a number that is not finite
only.  Otherwise the same reader reads the written text as the same dependency. -/
theorem readLike_comesBack (schema : Schema) (like : Draft) (text : String)
    (outcome : Outcome Dependency) (dependency : Dependency)
    (read : (readLike (.schema schema) like text).result = .ok outcome)
    (success : outcome.result = .ok dependency) :
    ComesBack (readLike (.schema schema) like) dependency := by
  have choice (isChoice : (∃ keys, like = .onlyOne keys) ∨ ∃ value, like = .other value) :
      ComesBack (readLike (.schema schema) like) dependency := by
    rw [result_readLike_onlyOne isChoice] at read
    obtain rfl := Except.ok.inj read
    obtain ⟨rule, result, rfl⟩ := exists_dependency_of_map success
    exact onlyOne_comesBack result (result_readLike_onlyOne isChoice)
  cases like with
  | requires first second firstValue secondValue =>
    rw [result_readLike_requires] at read
    cases found : Requires.read schema text with
    | error fault => exact absurd read (by simp [found, Except.map, Except.mapError])
    | ok inner =>
      rw [found] at read
      obtain rfl := Except.ok.inj read
      obtain ⟨rule, result, rfl⟩ := exists_dependency_of_map success
      refine requires_comesBack (Requires.wasRead_of_read found result) fun text outcome here => ?_
      rw [result_readLike_requires, here]
      rfl
  | group name keys =>
    cases name with
    | text name =>
      obtain rfl := Except.ok.inj read
      obtain ⟨rule, result, rfl⟩ := exists_dependency_of_map success
      exact group_comesBack result fun _ => rfl
    | _ => exact nomatch read
  | onlyOne keys => exact choice (.inl ⟨keys, rfl⟩)
  | other value => exact choice (.inr ⟨value, rfl⟩)

/-- A text with double quotes, two blanks in a row and a digit of another script. -/
theorem comesBack_of_spelled_text :
    (readLike
      (.schema ⟨.ofList [⟨"a", some .string, none, none⟩, ⟨"b", some .number, none, none⟩], []⟩)
      (.requires .null .null .null .null) "IF a==\x22x THEN y\x22  THEN b==\u0663;").result =
        .ok ⟨"IF a==\x22x THEN y\x22  THEN b==\u0663;", .requires,
          .ok (.requires ⟨"a", some (.text "x THEN y"), "b", some (.int 3)⟩)⟩ ∧
    ComesBack
      (readLike
        (.schema ⟨.ofList [⟨"a", some .string, none, none⟩, ⟨"b", some .number, none, none⟩], []⟩)
        (.requires .null .null .null .null))
      (.requires ⟨"a", some (.text "x THEN y"), "b", some (.int 3)⟩) :=
  ⟨rfl, readLike_comesBack _ _ "IF a==\x22x THEN y\x22  THEN b==\u0663;"
    ⟨"IF a==\x22x THEN y\x22  THEN b==\u0663;", .requires,
      .ok (.requires ⟨"a", some (.text "x THEN y"), "b", some (.int 3)⟩)⟩ _ rfl rfl⟩

end Unchecked

end FieldRules
