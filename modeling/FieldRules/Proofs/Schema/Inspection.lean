import FieldRules.Proofs.Schema.FailSoft

/-!
# Inspection and extraction agree

A listed text is read in three ways: by inspection of all texts, by inspection of
the texts of a kind, and by the reader of a kind on its own.  All three agree.

The kind of a text decides how inspection reads it (`Dependency.read_cases`), and
the outcome keeps the text and its kind (`Dependency.labels_of_read`).  So the
outcomes of a kind are those of the texts of the kind, and for requirements and
choices they are those of the reader of the kind
(`Schema.inspectDependencies_requires`, `Schema.inspectDependencies_onlyOne`).

Extraction looks at the texts of one kind only.  The reader of that kind refuses
to read none of the others, and it finds no dependency in them, so nothing is
lost (`Schema.map_inspectRequires`).
-/

set_option autoImplicit false

namespace FieldRules

/-! ## One text -/

section OneText

variable {schema : Schema} {text : String}

/-- A text is inspected by the reader of its kind.  A text of another kind fails. -/
theorem Dependency.read_cases (schema : Schema) (text : String) :
    ((Expression.ofText text).kind = .requires ∧
      Dependency.read schema text = (Requires.read schema text).map (·.map .requires)) ∨
    ((Expression.ofText text).kind = .onlyOne ∧
      Dependency.read schema text = .ok ((OnlyOne.read schema text).map .onlyOne)) ∨
    (((Expression.ofText text).kind = .group ∨ (Expression.ofText text).kind = .invalid) ∧
      ∃ failure, Dependency.read schema text =
        .ok ⟨text, (Expression.ofText text).kind, .error failure⟩) := by
  unfold Dependency.read Requires.read OnlyOne.read
  cases Expression.ofText text with
  | requires prerequisite dependant => exact .inl ⟨rfl, rfl⟩
  | malformedRequires => exact .inl ⟨rfl, rfl⟩
  | keys kind listed =>
    cases kind with
    | onlyOne => exact .inr (.inl ⟨rfl, rfl⟩)
    | group => exact .inr (.inr ⟨.inl rfl, _, rfl⟩)
  | malformedKeys kind fault =>
    cases kind with
    | onlyOne => exact .inr (.inl ⟨rfl, rfl⟩)
    | group => exact .inr (.inr ⟨.inl rfl, _, rfl⟩)
  | unknownKeyword => exact .inr (.inr ⟨.inr rfl, _, rfl⟩)

theorem Dependency.read_of_requires (announced : (Expression.ofText text).kind = .requires) :
    Dependency.read schema text = (Requires.read schema text).map (·.map .requires) := by
  rcases Dependency.read_cases schema text with ⟨-, same⟩ | ⟨other, -⟩ | ⟨other, -⟩
  · exact same
  · exact absurd (announced.symm.trans other) (by decide)
  · simp [announced] at other

theorem Dependency.read_of_onlyOne (announced : (Expression.ofText text).kind = .onlyOne) :
    Dependency.read schema text = .ok ((OnlyOne.read schema text).map .onlyOne) := by
  rcases Dependency.read_cases schema text with ⟨other, -⟩ | ⟨-, same⟩ | ⟨other, -⟩
  · exact absurd (announced.symm.trans other) (by decide)
  · exact same
  · simp [announced] at other

/-- The outcome of a requirement keeps the text and its kind. -/
theorem Requires.labels_of_read {outcome : Outcome Requires}
    (read : Requires.read schema text = .ok outcome) :
    outcome.specification = text ∧ outcome.kind = (Expression.ofText text).kind := by
  rcases Requires.read_cases schema text with ⟨prerequisite, dependant, recognised, relates⟩ |
    ⟨failure, failed⟩
  · rcases Requires.read_sides recognised relates with ⟨first, second, -, -, whole⟩ |
      ⟨side, fault, -, -, refused⟩
    · obtain rfl := Except.ok.inj (whole.symm.trans read)
      rw [recognised]
      exact ⟨rfl, rfl⟩
    · exact absurd (refused.symm.trans read) (by simp)
  · obtain rfl := Except.ok.inj (failed.symm.trans read)
    exact ⟨rfl, rfl⟩

/-- The outcome of a choice keeps the text and its kind. -/
theorem OnlyOne.labels_read (schema : Schema) (text : String) :
    (OnlyOne.read schema text).specification = text ∧
      (OnlyOne.read schema text).kind = (Expression.ofText text).kind := by
  unfold OnlyOne.read Expression.toOnlyOne
  split
  · next recognised =>
    rw [recognised]
    exact ⟨rfl, rfl⟩
  · exact ⟨rfl, rfl⟩

/-- What an outcome of inspection is, for each kind of its text. -/
theorem Dependency.cases_of_read {outcome : Outcome Dependency}
    (read : Dependency.read schema text = .ok outcome) :
    ((Expression.ofText text).kind = .requires ∧
      ∃ own, Requires.read schema text = .ok own ∧ outcome = own.map .requires) ∨
    ((Expression.ofText text).kind = .onlyOne ∧
      outcome = (OnlyOne.read schema text).map .onlyOne) ∨
    (((Expression.ofText text).kind = .group ∨ (Expression.ofText text).kind = .invalid) ∧
      ∃ failure, outcome = ⟨text, (Expression.ofText text).kind, .error failure⟩) := by
  rcases Dependency.read_cases schema text with ⟨announced, same⟩ | ⟨announced, same⟩ |
    ⟨announced, failure, failed⟩
  · rw [read] at same
    obtain ⟨inner, own, shape⟩ := Traversal.exists_of_map_eq_ok same.symm
    exact .inl ⟨announced, inner, own, shape.symm⟩
  · exact .inr (.inl ⟨announced, Except.ok.inj (read.symm.trans same)⟩)
  · exact .inr (.inr ⟨announced, failure, Except.ok.inj (read.symm.trans failed)⟩)

/-- The outcome of an inspected text keeps the text and its kind. -/
theorem Dependency.labels_of_read {outcome : Outcome Dependency}
    (read : Dependency.read schema text = .ok outcome) :
    outcome.specification = text ∧ outcome.kind = (Expression.ofText text).kind := by
  rcases Dependency.cases_of_read read with ⟨-, own, here, rfl⟩ | ⟨-, rfl⟩ | ⟨-, failure, rfl⟩
  · exact Requires.labels_of_read here
  · exact OnlyOne.labels_read schema text
  · exact ⟨rfl, rfl⟩

/-- A text of another kind fails as a requirement. -/
theorem Requires.exists_failure_of_kind (other : (Expression.ofText text).kind ≠ .requires) :
    ∃ failure, Requires.read schema text =
      .ok ⟨text, (Expression.ofText text).kind, .error failure⟩ := by
  rcases Requires.read_cases schema text with ⟨prerequisite, dependant, recognised, -⟩ | failed
  · rw [recognised] at other
    exact absurd rfl other
  · exact failed

end OneText

/-! ## All texts -/

namespace Schema

variable {schema : Schema}

/-- The outcomes of a kind are those of the texts of the kind. -/
theorem inspectDependencies_some {outcomes : List (Outcome Dependency)}
    (whole : schema.inspectDependencies none = .ok outcomes) (kind : Kind) :
    schema.inspectDependencies (some kind) =
      .ok (outcomes.filter fun outcome => outcome.kind == kind) := by
  refine Traversal.mapM_filter_eq_ok (fun text outcome read => ?_) whole
  rw [(Dependency.labels_of_read read).2]

/-- The texts of a kind announce the kind. -/
theorem kind_of_mem_textsOfKind {kind : Kind} {text : String}
    (member : text ∈ schema.textsOfKind kind) : (Expression.ofText text).kind = kind := by
  simpa using (List.mem_filter.mp member).2

/-- The outcomes of the kind of requirements are those of the reader of requirements. -/
theorem inspectDependencies_requires {outcomes : List (Outcome Requires)}
    (whole : schema.inspectRequires = .ok outcomes) :
    schema.inspectDependencies (some .requires) = .ok (outcomes.map (Outcome.map .requires)) := by
  have each := (List.forall₂_and_left _ _).mpr
    ⟨fun text member => kind_of_mem_textsOfKind member, Traversal.mapM_eq_ok_iff.mp whole⟩
  refine Traversal.mapM_eq_ok_iff.mpr (List.forall₂_map_right_iff.mpr (each.imp ?_))
  rintro text outcome ⟨announced, read⟩
  rw [Dependency.read_of_requires announced, read]
  rfl

/-- The outcomes of the kind of choices are those of the reader of choices. -/
theorem inspectDependencies_onlyOne (schema : Schema) :
    schema.inspectDependencies (some .onlyOne) =
      .ok (schema.inspectOnlyOne.map (Outcome.map .onlyOne)) := by
  refine Traversal.mapM_eq_ok_iff.mpr ?_
  rw [inspectOnlyOne, List.map_map, List.forall₂_map_right_iff]
  exact List.forall₂_same.mpr fun text member =>
    Dependency.read_of_onlyOne (kind_of_mem_textsOfKind member)

/-- Each text has one outcome, in order, which keeps the text. -/
theorem map_specification_of_inspectDependencies {outcomes : List (Outcome Dependency)}
    (whole : schema.inspectDependencies none = .ok outcomes) :
    outcomes.map Outcome.specification = schema.dependencyTexts := by
  have each : List.Forall₂ (fun text outcome => outcome.specification = text)
      schema.dependencyTexts outcomes :=
    (Traversal.mapM_eq_ok_iff.mp whole).imp fun text outcome read =>
      (Dependency.labels_of_read read).1
  have turned := List.forall₂_map_left_iff.mpr each.flip
  rwa [List.forall₂_eq_eq_eq] at turned

/-- The requirements are the same whether the texts of other kinds are read or not. -/
theorem map_inspectRequires (schema : Schema) :
    schema.inspectRequires.map Outcome.successes =
      (schema.dependencyTexts.mapM (Requires.read schema)).map Outcome.successes := by
  refine Traversal.map_mapM_filter schema.dependencyTexts fun text other => ?_
  obtain ⟨failure, failed⟩ := Requires.exists_failure_of_kind (beq_eq_false_iff_ne.mp other)
  exact ⟨_, failed, rfl⟩

end Schema

/-! ## The operations -/

namespace Unchecked

theorem result_parseRequires (schema : Schema) (text : String) :
    (parseRequires (.schema schema) (.text text)).result =
      (Requires.read schema text).mapError .digits := by
  have opened : parseRequires (.schema schema) (.text text) =
      Attempt.ofExcept .digits (Requires.read schema text) := rfl
  rw [opened]
  cases Requires.read schema text with
  | error fault => rfl
  | ok outcome => rfl

theorem result_parseRequires_eq_ok_iff {schema : Schema} {text : String}
    {outcome : Outcome Requires} :
    (parseRequires (.schema schema) (.text text)).result = .ok outcome ↔
      Requires.read schema text = .ok outcome := by
  rw [result_parseRequires]
  exact Traversal.mapError_eq_ok_iff

theorem result_parseOnlyOne (schema : Schema) (text : String) :
    (parseOnlyOne (.schema schema) (.text text)).result = .ok (OnlyOne.read schema text) := rfl

/-- The outcomes of all listed texts agree with the outcomes of a kind, and with those of the reader
of each text. -/
structure InspectionAgrees (schema : Schema) (outcomes : List (Outcome Dependency)) : Prop where
  /-- The inspection of a kind returns the outcomes of the kind, in order. -/
  filtered : ∀ kind : Kind, (inspectDependencies (.schema schema) (some kind.name)).result =
    .ok (outcomes.filter fun outcome => outcome.kind == kind)
  /-- Each listed text has one outcome, in order, which carries the text. -/
  carried : outcomes.map Outcome.specification = schema.dependencyTexts
  /-- An outcome of the kind of requirements is that of the reader of requirements. -/
  requirement : ∀ outcome ∈ outcomes, outcome.kind = .requires →
    ∃ own, (parseRequires (.schema schema) (.text outcome.specification)).result = .ok own ∧
      outcome = own.map .requires
  /-- An outcome of the kind of choices is that of the reader of choices. -/
  choice : ∀ outcome ∈ outcomes, outcome.kind = .onlyOne →
    ∃ own, (parseOnlyOne (.schema schema) (.text outcome.specification)).result = .ok own ∧
      outcome = own.map .onlyOne
  /-- An outcome of another kind is no success. -/
  neither : ∀ outcome ∈ outcomes, outcome.kind = .group ∨ outcome.kind = .invalid →
    ∃ failure, outcome.result = .error failure

/-- The ways to read the listed texts of a schema agree. -/
structure PathsAgree (schema : Schema) (settings : Settings) : Prop where
  /-- Inspection of all texts, if it returns, agrees with the other ways. -/
  inspection : ∀ outcomes, (inspectDependencies (.schema schema) none).result = .ok outcomes →
    InspectionAgrees schema outcomes
  /-- The requirements are what the reader of requirements finds in all texts, or the refusal is
  the first of its refusals. -/
  requirements : (extractRequires (.schema schema) settings).result =
    (schema.dependencyTexts.mapM fun text =>
      (parseRequires (.schema schema) (.text text)).result).map Outcome.successes
  /-- The requirements are refused exactly when the reader refuses some text. -/
  requirementsRefused :
    (∃ refusal, (extractRequires (.schema schema) settings).result = .error refusal) ↔
      ∃ text ∈ schema.dependencyTexts, ∃ refusal,
        (parseRequires (.schema schema) (.text text)).result = .error refusal
  /-- The choices are what the reader of choices finds in all texts. -/
  choices : (extractOnlyOne (.schema schema) settings).result =
    (schema.dependencyTexts.mapM fun text =>
      (parseOnlyOne (.schema schema) (.text text)).result).map Outcome.successes
  /-- The choices are refused exactly when the reader refuses some text. -/
  choicesRefused :
    (∃ refusal, (extractOnlyOne (.schema schema) settings).result = .error refusal) ↔
      ∃ text ∈ schema.dependencyTexts, ∃ refusal,
        (parseOnlyOne (.schema schema) (.text text)).result = .error refusal

variable {schema : Schema}

/-- Inspection of all texts returns what the inspection of the checked schema returns. -/
theorem inspectDependencies_eq_ok_iff {outcomes : List (Outcome Dependency)} :
    (inspectDependencies (.schema schema) none).result = .ok outcomes ↔
      schema.inspectDependencies none = .ok outcomes := by
  have opened := result_inspectDependencies schema none
  rw [Option.map_none] at opened
  rw [opened]
  exact Traversal.mapError_eq_ok_iff

/-- Inspection of a kind returns what the inspection of the checked schema returns. -/
theorem result_inspectDependencies_of_kind {kind : Kind} {outcomes : List (Outcome Dependency)}
    (whole : schema.inspectDependencies (some kind) = .ok outcomes) :
    (inspectDependencies (.schema schema) (some kind.name)).result = .ok outcomes := by
  have opened := result_inspectDependencies schema (some kind)
  rw [Option.map_some, whole] at opened
  exact opened

/-- An outcome of the inspection of all texts is that of its own text. -/
theorem read_of_inspectDependencies {outcomes : List (Outcome Dependency)}
    (whole : schema.inspectDependencies none = .ok outcomes) {outcome : Outcome Dependency}
    (member : outcome ∈ outcomes) :
    Dependency.read schema outcome.specification = .ok outcome := by
  obtain ⟨text, -, read⟩ := Traversal.exists_item_of_mem whole member
  rw [(Dependency.labels_of_read read).1]
  exact read

/-- An inspected text of the kind of requirements has the outcome of its own reader. -/
theorem exists_parseRequires {outcome : Outcome Dependency}
    (read : Dependency.read schema outcome.specification = .ok outcome)
    (announced : outcome.kind = .requires) :
    ∃ own, (parseRequires (.schema schema) (.text outcome.specification)).result = .ok own ∧
      outcome = own.map .requires := by
  rw [(Dependency.labels_of_read read).2] at announced
  rcases Dependency.cases_of_read read with ⟨-, own, here, same⟩ | ⟨other, -⟩ | ⟨other, -⟩
  · refine ⟨own, ?_, same⟩
    rw [result_parseRequires, here]
    rfl
  · exact absurd (announced.symm.trans other) (by decide)
  · simp [announced] at other

/-- An inspected text of the kind of choices has the outcome of its own reader. -/
theorem exists_parseOnlyOne {outcome : Outcome Dependency}
    (read : Dependency.read schema outcome.specification = .ok outcome)
    (announced : outcome.kind = .onlyOne) :
    ∃ own, (parseOnlyOne (.schema schema) (.text outcome.specification)).result = .ok own ∧
      outcome = own.map .onlyOne := by
  rw [(Dependency.labels_of_read read).2] at announced
  rcases Dependency.cases_of_read read with ⟨other, -⟩ | ⟨-, same⟩ | ⟨other, -⟩
  · exact absurd (announced.symm.trans other) (by decide)
  · exact ⟨_, result_parseOnlyOne schema _, same⟩
  · simp [announced] at other

/-- An inspected text of another kind fails. -/
theorem exists_failure_of_kind {outcome : Outcome Dependency}
    (read : Dependency.read schema outcome.specification = .ok outcome)
    (other : outcome.kind = .group ∨ outcome.kind = .invalid) :
    ∃ failure, outcome.result = .error failure := by
  rw [(Dependency.labels_of_read read).2] at other
  rcases Dependency.cases_of_read read with ⟨announced, -⟩ | ⟨announced, -⟩ | ⟨-, failure, same⟩
  · simp [announced] at other
  · simp [announced] at other
  · exact ⟨failure, by rw [same]⟩

/-- The requirements that are found in all texts. -/
theorem result_extractRequires_eq_mapM (schema : Schema) (settings : Settings) :
    (extractRequires (.schema schema) settings).result =
      (schema.dependencyTexts.mapM fun text =>
        (parseRequires (.schema schema) (.text text)).result).map Outcome.successes := by
  simp only [result_extractRequires, result_parseRequires, Traversal.mapM_mapError,
    Schema.map_inspectRequires]
  cases schema.dependencyTexts.mapM (Requires.read schema) <;> rfl

/-- The choices that are found in all texts. -/
theorem result_extractOnlyOne_eq_mapM (schema : Schema) (settings : Settings) :
    (extractOnlyOne (.schema schema) settings).result =
      (schema.dependencyTexts.mapM fun text =>
        (parseOnlyOne (.schema schema) (.text text)).result).map Outcome.successes := by
  have all : (schema.dependencyTexts.mapM fun text =>
      (parseOnlyOne (.schema schema) (.text text)).result) =
        .ok (schema.dependencyTexts.map (OnlyOne.read schema)) := by
    rw [Traversal.mapM_eq_ok_iff, List.forall₂_map_right_iff, List.forall₂_same]
    exact fun text _ => result_parseOnlyOne schema text
  rw [result_extractOnlyOne, all]
  exact congrArg Except.ok List.filterMap_map.symm

theorem inspectionAgrees {outcomes : List (Outcome Dependency)}
    (whole : schema.inspectDependencies none = .ok outcomes) : InspectionAgrees schema outcomes where
  filtered kind := result_inspectDependencies_of_kind (Schema.inspectDependencies_some whole kind)
  carried := Schema.map_specification_of_inspectDependencies whole
  requirement _ member := exists_parseRequires (read_of_inspectDependencies whole member)
  choice _ member := exists_parseOnlyOne (read_of_inspectDependencies whole member)
  neither _ member := exists_failure_of_kind (read_of_inspectDependencies whole member)

/-- **Inspection of all texts, inspection of a kind and the reader of each text agree.** -/
theorem inspection_agrees (schema : Schema) (settings : Settings) :
    PathsAgree schema settings where
  inspection outcomes returned := inspectionAgrees (inspectDependencies_eq_ok_iff.mp returned)
  requirements := result_extractRequires_eq_mapM schema settings
  requirementsRefused := by
    rw [result_extractRequires_eq_mapM]
    exact Traversal.exists_error_map_iff
  choices := result_extractOnlyOne_eq_mapM schema settings
  choicesRefused := by
    rw [result_extractOnlyOne_eq_mapM]
    exact Traversal.exists_error_map_iff

end Unchecked

end FieldRules
