import FieldRules.Proofs.Rule.WrittenAgain
import FieldRules.Proofs.Schema.Inspection

/-!
# What is emitted is well formed

Whatever the listed texts are, the dependencies that come out relate declared
keys.  The keys of a requirement differ, and each constraint is of the type of
its own property (`Requires.IsWellFormed`).  A choice has two keys at least, and
a group one (`Schema.Admits`).

This holds of every way on which a dependency is made: each reader establishes it
for one text, and inspection, extraction, the filter by type, registration and
the layout only pass on what was read.  The layout also makes groups of single
properties, and these are declared.
-/

set_option autoImplicit false

namespace FieldRules

/-! ## Constraints -/

namespace Literal

/-- What a property of a type can be constrained to: nothing, or a literal of the type.  Objects,
arrays and properties without a type are never constrained. -/
def Constrains (type : Option DataType) (value : Option Literal) : Prop :=
  match type with
  | some .boolean => value = none ∨ ∃ truth, value = some (.bool truth)
  | some .string =>
    value = none ∨ ∃ content, value = some (.text content) ∧ Text.allBlank content.toList = false
  | some .integer | some .number =>
    value = none ∨ (∃ number, value = some (.int number)) ∨ ∃ number, value = some (.float number)
  | some .object | some .array | none => value = none

theorem constrains_none (type : Option DataType) : Constrains type none := by
  match type with
  | some .boolean | some .string | some .integer | some .number => exact .inl rfl
  | some .object | some .array | none => exact rfl

/-- A number is read as nothing, as an integer or as a fraction. -/
theorem readNumber_cases {s : List Char} {value : Option Literal}
    (read : readNumber s = .ok value) :
    value = none ∨ (∃ number, value = some (.int number)) ∨
      ∃ number, value = some (.float number) := by
  by_cases isInteger : ∃ form : IntegerForm, form.chars = Text.trim s
  · obtain ⟨form, shape⟩ := isInteger
    rcases readNumber_of_form form shape with ⟨-, refused⟩ | ⟨-, number, -, whole⟩
    · exact absurd (refused.symm.trans read) (by simp)
    · exact .inr (.inl ⟨number, Except.ok.inj (read.symm.trans whole)⟩)
  · rw [readNumber_of_no_form isInteger] at read
    rw [← Except.ok.inj read]
    cases Binary64.ofText? (Text.trim s) with
    | none => exact .inl rfl
    | some number => exact .inr (.inr ⟨number, rfl⟩)

/-- What is read from a literal is a constraint of the type. -/
theorem constrains_of_readChars {type : Option DataType} {s : List Char} {value : Option Literal}
    (read : readChars type s = .ok value) : Constrains type value := by
  match type with
  | some .boolean =>
    obtain rfl : readBool s = value := Except.ok.inj read
    unfold readBool
    dsimp only
    split
    · exact .inr ⟨true, rfl⟩
    · split
      · exact .inr ⟨false, rfl⟩
      · exact .inl rfl
  | some .string =>
    obtain rfl : readText s = value := Except.ok.inj read
    unfold readText
    dsimp only
    split
    · exact .inl rfl
    · next shown =>
      refine .inr ⟨_, rfl, ?_⟩
      rw [String.toList_ofList]
      exact Bool.eq_false_of_not_eq_true shown
  | some .integer | some .number => exact readNumber_cases read
  | some .object | some .array | none => exact (Except.ok.inj read).symm

end Literal

theorem Schema.constrains_of_readSide {schema : Schema} {side : Side} {value : Option Literal}
    (read : schema.readSide side = .ok value) :
    Literal.Constrains (schema.typeOf side.key) value := by
  unfold readSide Literal.read at read
  split at read
  · rw [← Except.ok.inj read]
    exact Literal.constrains_none _
  · exact Literal.constrains_of_readChars read

/-! ## Dependencies -/

/-- A requirement between two different declared keys, each with a constraint of the type of its
own property. -/
structure Requires.IsWellFormed (rule : Requires) (schema : Schema) : Prop where
  different : rule.prerequisiteKey ≠ rule.dependantKey
  prerequisiteDeclared : rule.prerequisiteKey ∈ schema.keys
  dependantDeclared : rule.dependantKey ∈ schema.keys
  prerequisiteTyped :
    Literal.Constrains (schema.typeOf rule.prerequisiteKey) rule.prerequisiteValue
  dependantTyped : Literal.Constrains (schema.typeOf rule.dependantKey) rule.dependantValue

/-- A list of enough keys, repetitions counted, all of them declared. -/
structure Schema.Admits (schema : Schema) (least : Nat) (keys : List String) : Prop where
  enough : least ≤ keys.length
  declared : ∀ key ∈ keys, key ∈ schema.keys

/-- A requirement that is well formed, a choice of two declared keys or more, or a group of a
declared key or more. -/
def Dependency.IsWellFormed (schema : Schema) : Dependency → Prop
  | .requires rule => rule.IsWellFormed schema
  | .onlyOne rule => schema.Admits 2 rule.keys
  | .group rule => schema.Admits 1 rule.keys

section Readers

variable {schema : Schema} {text : String}

theorem Requires.isWellFormed_of_read {outcome : Outcome Requires} {rule : Requires}
    (read : Requires.read schema text = .ok outcome) (success : outcome.result = .ok rule) :
    rule.IsWellFormed schema := by
  obtain ⟨prerequisite, dependant, -, relates, first, second, left, right⟩ :=
    Requires.exists_sides_of_read read success
  constructor
  · rw [first, second]
    exact relates.different
  · rw [first, ← schema.declares_iff]
    exact relates.prerequisiteDeclared
  · rw [second, ← schema.declares_iff]
    exact relates.dependantDeclared
  · rw [first]
    exact Schema.constrains_of_readSide left
  · rw [second]
    exact Schema.constrains_of_readSide right

theorem OnlyOne.admits_of_read {rule : OnlyOne}
    (read : (OnlyOne.read schema text).result = .ok rule) : schema.Admits 2 rule.keys := by
  obtain ⟨-, enough, declared⟩ := exists_list_of_onlyOne read
  exact ⟨enough, fun key listed => (schema.declares_iff key).mp (declared key listed)⟩

theorem Group.admits_of_keys {group : Group} (nonempty : group.keys ≠ [])
    (declared : ∀ key ∈ group.keys, schema.declares key = true) : schema.Admits 1 group.keys :=
  ⟨List.length_pos_of_ne_nil nonempty,
    fun key listed => (schema.declares_iff key).mp (declared key listed)⟩

theorem Group.admits_of_read {name : String} {group : Group}
    (read : (Group.read schema name text).result = .ok group) : schema.Admits 1 group.keys := by
  obtain ⟨nonempty, declared⟩ := Schema.keys_of_read read
  exact Group.admits_of_keys nonempty declared

theorem Dependency.isWellFormed_of_read {outcome : Outcome Dependency} {dependency : Dependency}
    (read : Dependency.read schema text = .ok outcome)
    (success : outcome.result = .ok dependency) : dependency.IsWellFormed schema := by
  rcases Dependency.cases_of_read read with ⟨-, own, here, rfl⟩ | ⟨-, rfl⟩ | ⟨-, failure, rfl⟩
  · obtain ⟨rule, result, rfl⟩ := Unchecked.exists_dependency_of_map success
    exact Requires.isWellFormed_of_read here result
  · obtain ⟨rule, result, rfl⟩ := Unchecked.exists_dependency_of_map success
    exact OnlyOne.admits_of_read result
  · exact absurd success (by simp)

end Readers

/-! ## Outcomes -/

namespace Outcome

variable {α : Type}

/-- An outcome that holds either a value that is accepted or a failure. -/
def HoldsOne (accepts : α → Prop) (outcome : Outcome α) : Prop :=
  (∃ value, outcome.value? = some value ∧ outcome.failure? = none ∧ accepts value) ∨
    (outcome.value? = none ∧ ∃ failure, outcome.failure? = some failure)

theorem holdsOne_of_result {accepts : α → Prop} {outcome : Outcome α}
    (accepted : ∀ value, outcome.result = .ok value → accepts value) :
    outcome.HoldsOne accepts := by
  unfold HoldsOne value? failure?
  cases result : outcome.result with
  | ok value => exact .inl ⟨value, rfl, rfl, accepted value result⟩
  | error failure => exact .inr ⟨rfl, failure, rfl⟩

theorem value?_eq_some_iff {outcome : Outcome α} {value : α} :
    outcome.value? = some value ↔ outcome.result = .ok value := by
  rw [value?]
  cases outcome.result with
  | ok found => simp [Except.toOption]
  | error failure => simp [Except.toOption]

theorem mem_successes {outcomes : List (Outcome α)} {value : α} :
    value ∈ successes outcomes ↔ ∃ outcome ∈ outcomes, outcome.result = .ok value := by
  simp only [successes, List.mem_filterMap, value?_eq_some_iff]

end Outcome

/-! ## Groups -/

namespace Schema

variable {schema : Schema} {groups : List Group}

/-- Every entry of the layout of registered groups is a group of declared keys. -/
theorem admits_of_mem_assembleGroups (registered : schema.AreRegistered groups)
    {includeSingletons : Bool} {entry : Group}
    (member : entry ∈ schema.assembleGroups groups includeSingletons) :
    schema.Admits 1 entry.keys := by
  rcases mem_assembleGroups_cases member with inGroups | ⟨property, free, rfl⟩
  · exact Group.admits_of_keys (registered.nonempty entry inGroups)
      (registered.declared entry inGroups)
  · refine ⟨Nat.le_refl _, fun key listed => ?_⟩
    rw [List.mem_singleton.mp listed]
    exact List.mem_map_of_mem (mem_ungrouped.mp free).1

end Schema

/-! ## The operations -/

namespace Unchecked

/-- Everything that the operations on a schema emit is well formed, and each outcome holds either a
value or a failure. -/
structure EmitsWellFormed (schema : Schema) (settings : Settings) : Prop where
  /-- The requirements relate two different declared keys, each constrained by its own type. -/
  requirements : ∀ rules, (extractRequires (.schema schema) settings).result = .ok rules →
    ∀ rule ∈ rules, rule.IsWellFormed schema
  /-- A choice lists two declared keys or more. -/
  choices : ∀ rules, (extractOnlyOne (.schema schema) settings).result = .ok rules →
    ∀ rule ∈ rules, schema.Admits 2 rule.keys
  /-- So does a choice among properties of one type. -/
  choicesOfType : ∀ type rules,
    (extractOnlyOneByType (.schema schema) settings type).result = .ok rules →
    ∀ rule ∈ rules, schema.Admits 2 rule.keys
  /-- A group that is shown lists a declared key or more, with and without single properties. -/
  groups : ∀ singletons shown,
    (extractGroups (.schema schema) settings singletons).result = .ok shown →
    ∀ group ∈ shown, schema.Admits 1 group.keys
  /-- An inspected text holds a dependency or a failure, whatever kind is asked for. -/
  inspected : ∀ kindName outcomes,
    (inspectDependencies (.schema schema) kindName).result = .ok outcomes →
    ∀ outcome ∈ outcomes, outcome.HoldsOne (Dependency.IsWellFormed schema)
  /-- A registered text holds a group or a failure. -/
  inspectedGroups : ∀ outcomes, (inspectGroups (.schema schema)).result = .ok outcomes →
    ∀ outcome ∈ outcomes, outcome.HoldsOne fun group => schema.Admits 1 group.keys
  /-- A text read as a requirement holds one or a failure. -/
  parsedRequirement : ∀ text outcome,
    (parseRequires (.schema schema) text).result = .ok outcome →
    outcome.HoldsOne fun rule => rule.IsWellFormed schema
  /-- A text read as a choice holds one or a failure. -/
  parsedChoice : ∀ text outcome, (parseOnlyOne (.schema schema) text).result = .ok outcome →
    outcome.HoldsOne fun rule => schema.Admits 2 rule.keys
  /-- A text read as a group holds one or a failure. -/
  parsedGroup : ∀ name text outcome,
    (parseGroup (.schema schema) name text).result = .ok outcome →
    outcome.HoldsOne fun group => schema.Admits 1 group.keys

variable {schema : Schema} {settings : Settings}

theorem isWellFormed_of_extractRequires {rules : List Requires}
    (returned : (extractRequires (.schema schema) settings).result = .ok rules) :
    ∀ rule ∈ rules, rule.IsWellFormed schema := by
  obtain ⟨outcomes, whole, rfl⟩ := exists_outcomes_of_extractRequires returned
  intro rule member
  obtain ⟨outcome, inside, success⟩ := Outcome.mem_successes.mp member
  obtain ⟨text, -, read⟩ := Traversal.exists_item_of_mem whole inside
  exact Requires.isWellFormed_of_read read success

theorem admits_of_extractOnlyOne {rules : List OnlyOne}
    (returned : (extractOnlyOne (.schema schema) settings).result = .ok rules) :
    ∀ rule ∈ rules, schema.Admits 2 rule.keys := by
  obtain rfl := Except.ok.inj ((result_extractOnlyOne schema settings).symm.trans returned)
  intro rule member
  obtain ⟨text, -, stated⟩ := List.mem_filterMap.mp member
  exact OnlyOne.admits_of_read (Outcome.value?_eq_some_iff.mp stated)

/-- The choices of a type are some of the choices. -/
theorem exists_choices_of_type {type : Value} {rules : List OnlyOne}
    (returned : (extractOnlyOneByType (.schema schema) settings type).result = .ok rules) :
    ∃ wanted choices, (extractOnlyOne (.schema schema) settings).result = .ok choices ∧
      rules = schema.filterByType wanted choices := by
  rw [result_extractOnlyOneByType] at returned
  obtain ⟨wanted, -, rfl⟩ := Traversal.exists_of_map_eq_ok returned
  exact ⟨wanted, _, result_extractOnlyOne schema settings, rfl⟩

/-- An inspection that is asked for by a name asks for the kind of the name, or for nothing. -/
theorem inspectDependencies_some_cases (schema : Schema) (name : String) :
    (∃ kind, inspectDependencies (.schema schema) (some name) =
      Attempt.ofExcept .digits (schema.inspectDependencies (some kind))) ∨
    inspectDependencies (.schema schema) (some name) = pure [] := by
  cases known : Kind.ofName? name with
  | some kind =>
    left
    refine ⟨kind, ?_⟩
    simp only [inspectDependencies, known]
    rfl
  | none =>
    right
    simp only [inspectDependencies, known]
    rfl

/-- Every outcome of an inspection is that of a text. -/
theorem exists_text_of_inspected {kindName : Option String}
    {outcomes : List (Outcome Dependency)}
    (returned : (inspectDependencies (.schema schema) kindName).result = .ok outcomes)
    {outcome : Outcome Dependency} (member : outcome ∈ outcomes) :
    ∃ text, Dependency.read schema text = .ok outcome := by
  have ofTexts (kind : Option Kind)
      (read : (Attempt.ofExcept Refusal.digits (schema.inspectDependencies kind)).result =
        .ok outcomes) : ∃ text, Dependency.read schema text = .ok outcome := by
    cases whole : schema.inspectDependencies kind with
    | error fault => exact absurd (whole ▸ read) (by simp [Attempt.ofExcept, Attempt.refuse])
    | ok found =>
      rw [whole] at read
      obtain rfl := Except.ok.inj read
      obtain ⟨text, -, here⟩ := Traversal.exists_item_of_mem whole member
      exact ⟨text, here⟩
  cases kindName with
  | none => exact ofTexts none returned
  | some name =>
    rcases inspectDependencies_some_cases schema name with ⟨kind, opened⟩ | opened
    · rw [opened] at returned
      exact ofTexts (some kind) returned
    · rw [opened] at returned
      obtain rfl := Except.ok.inj returned
      exact absurd member List.not_mem_nil

theorem admits_of_extractGroups {singletons : Value} {shown : List Group}
    (returned : (extractGroups (.schema schema) settings singletons).result = .ok shown) :
    ∀ group ∈ shown, schema.Admits 1 group.keys := by
  rw [extractGroups_eq] at returned
  split at returned
  · obtain rfl := Except.ok.inj returned
    exact fun group => Schema.admits_of_mem_assembleGroups schema.areRegistered_inspectGroups
  · exact nomatch returned

theorem holdsOne_of_inspectGroups {outcomes : List (Outcome Group)}
    (returned : (inspectGroups (.schema schema)).result = .ok outcomes) :
    ∀ outcome ∈ outcomes, outcome.HoldsOne fun group => schema.Admits 1 group.keys := by
  rw [result_inspectGroups] at returned
  split at returned
  · obtain rfl := Except.ok.inj returned
    have registered := schema.areRegistered_inspectGroups
    intro outcome member
    refine Outcome.holdsOne_of_result fun group success => ?_
    have kept := Outcome.mem_successes.mpr ⟨outcome, member, success⟩
    exact Group.admits_of_keys (registered.nonempty group kept) (registered.declared group kept)
  · exact absurd returned (by simp)

theorem holdsOne_of_parseRequires {text : Value} {outcome : Outcome Requires}
    (returned : (parseRequires (.schema schema) text).result = .ok outcome) :
    outcome.HoldsOne fun rule => rule.IsWellFormed schema := by
  cases text with
  | text content =>
    have read := result_parseRequires_eq_ok_iff.mp returned
    exact Outcome.holdsOne_of_result fun rule success =>
      Requires.isWellFormed_of_read read success
  | _ => exact nomatch returned

/-- **Everything that is emitted is well formed.** -/
theorem emitted_wellFormed (schema : Schema) (settings : Settings) :
    EmitsWellFormed schema settings where
  requirements rules := isWellFormed_of_extractRequires
  choices rules := admits_of_extractOnlyOne
  choicesOfType type rules returned := by
    obtain ⟨wanted, choices, extracted, rfl⟩ := exists_choices_of_type returned
    exact fun rule member => admits_of_extractOnlyOne extracted rule (List.mem_of_mem_filter member)
  groups singletons shown := admits_of_extractGroups
  inspected kindName outcomes returned outcome member := by
    obtain ⟨text, read⟩ := exists_text_of_inspected returned member
    exact Outcome.holdsOne_of_result fun dependency => Dependency.isWellFormed_of_read read
  inspectedGroups outcomes := holdsOne_of_inspectGroups
  parsedRequirement text outcome := holdsOne_of_parseRequires
  parsedChoice text outcome returned := by
    cases text with
    | text content =>
      obtain rfl := Except.ok.inj returned
      exact Outcome.holdsOne_of_result fun rule => OnlyOne.admits_of_read
    | _ => exact nomatch returned
  parsedGroup name text outcome returned := by
    cases name with
    | text name =>
      cases text with
      | text content =>
        obtain rfl := Except.ok.inj returned
        exact Outcome.holdsOne_of_result fun group => Group.admits_of_read
      | _ => exact nomatch returned
    | _ => exact nomatch returned

end Unchecked

end FieldRules
