import FieldRules.Proofs.Schema.Inspection

/-!
# Which losses are noted

A listed text is lost when neither extraction takes anything from it
(`Schema.lostTexts`).  The extraction of requirements notes the lost texts that
announce a requirement, and the extraction of choices those that announce a
choice, each of them once (`Schema.forall₂_lostOf_requires`,
`Schema.forall₂_lostOf_onlyOne`).

Nothing else is noted.  A text that announces a group, or that opens with none of
the keywords, is lost without a record, since neither extraction looks at it.  So
the records account for all lost texts exactly when every listed text announces a
requirement or a choice (`Unchecked.accountsFor_lostTexts_iff`).
-/

set_option autoImplicit false

namespace FieldRules

/-! ## Outcomes under another type -/

section Mapped

variable {α β : Type}

theorem Outcome.value?_map (f : α → β) (outcome : Outcome α) :
    (outcome.map f).value? = outcome.value?.map f := by
  unfold value? map
  cases outcome.result <;> rfl

theorem Outcome.failure?_map (f : α → β) (outcome : Outcome α) :
    (outcome.map f).failure? = outcome.failure? := by
  unfold failure? map
  cases outcome.result <;> rfl

theorem Notice.ofOutcome?_map (channel : Channel) (f : α → β) (outcome : Outcome α) :
    ofOutcome? channel (outcome.map f) = ofOutcome? channel outcome := by
  rw [ofOutcome?, Outcome.failure?_map]
  rfl

end Mapped

/-- The kinds that the extractions of dependencies ask for. -/
def Kind.isExtracted : Kind → Bool
  | .requires | .onlyOne => true
  | .group | .invalid => false

namespace Schema

/-! ## Lost texts -/

/-- Whether a text contributes a requirement or a choice. -/
def contributes (schema : Schema) (text : String) : Bool :=
  (schema.requirement? text).isSome || (schema.choice? text).isSome

/-- The listed texts that contribute nothing, in order. -/
def lostTexts (schema : Schema) : List String :=
  schema.dependencyTexts.filter fun text => !schema.contributes text

/-- The lost texts that announce a kind, in order. -/
def lostOf (schema : Schema) (kind : Kind) : List String :=
  (schema.textsOfKind kind).filter fun text => !schema.contributes text

/-- Whether a text announces a kind that is extracted. -/
def announcesExtracted (text : String) : Bool := (Expression.ofText text).kind.isExtracted

/-- The failure of a text, whatever it announces. -/
def failureOf? (schema : Schema) (text : String) : Option Failure :=
  (Dependency.read schema text).toOption.bind Outcome.failure?

variable {schema : Schema} {text : String}

/-- A text of a kind that is not extracted contributes nothing. -/
theorem contributes_of_not_extracted (other : announcesExtracted text = false) :
    schema.contributes text = false := by
  have notRequires : (Expression.ofText text).kind ≠ .requires := by
    intro same
    simp [announcesExtracted, same, Kind.isExtracted] at other
  have notOnlyOne : (Expression.ofText text).kind ≠ .onlyOne := by
    intro same
    simp [announcesExtracted, same, Kind.isExtracted] at other
  rw [contributes, requirement?_of_kind notRequires, choice?_of_kind notOnlyOne]
  rfl

/-- A listed text of a kind that is not extracted is lost. -/
theorem mem_lostTexts_of_not_extracted (member : text ∈ schema.dependencyTexts)
    (other : announcesExtracted text = false) : text ∈ schema.lostTexts := by
  rw [lostTexts, List.mem_filter, contributes_of_not_extracted other]
  exact ⟨member, rfl⟩

/-- A text contributes exactly when its inspection succeeds. -/
theorem contributes_of_read {outcome : Outcome Dependency}
    (read : Dependency.read schema text = .ok outcome) :
    schema.contributes text = outcome.value?.isSome := by
  rcases Dependency.cases_of_read read with ⟨announced, own, here, rfl⟩ | ⟨announced, rfl⟩ |
    ⟨announced, failure, rfl⟩
  · rw [contributes, choice?_of_kind (by simp [announced]), requirement?, here,
      Outcome.value?_map]
    simp [Except.toOption]
  · rw [contributes, requirement?_of_kind (by simp [announced]), choice?, Outcome.value?_map]
    simp
  · have other : announcesExtracted text = false := by
      rw [announcesExtracted]
      rcases announced with same | same
      · rw [same, Kind.isExtracted]
      · rw [same, Kind.isExtracted]
    rw [contributes_of_not_extracted other]
    rfl

/-- The lost texts of the two extracted kinds, one kind behind the other. -/
theorem lostOf_append_perm (schema : Schema) :
    (schema.lostOf .requires ++ schema.lostOf .onlyOne).Perm
      (schema.lostTexts.filter announcesExtracted) := by
  have among {kind : Kind} {keep : String → Bool}
      (agree : ∀ text, ((Expression.ofText text).kind == kind) =
        (keep text && announcesExtracted text)) :
      schema.lostOf kind = (schema.lostTexts.filter announcesExtracted).filter keep := by
    unfold lostOf textsOfKind lostTexts
    rw [List.filter_filter, List.filter_filter, List.filter_filter]
    apply List.filter_congr
    intro text _
    rw [agree, Bool.and_comm, Bool.and_assoc]
  have requirements := @among .requires fun text => (Expression.ofText text).kind == .requires
  -- Among the texts of the two kinds, those that announce no requirement announce a choice.
  have choices := @among .onlyOne fun text => !((Expression.ofText text).kind == .requires)
  unfold announcesExtracted at requirements choices ⊢
  rw [requirements fun text => by cases (Expression.ofText text).kind <;> rfl,
    choices fun text => by cases (Expression.ofText text).kind <;> rfl]
  exact List.filter_append_perm _ _

/-! ## Records -/

/-- A record for debugging that a text was dropped.  It names the text and the class of its
failure. -/
structure NotesDrop (schema : Schema) (text : String) (record : Notice) : Prop where
  level : record.level = .debug
  channel : record.channel = .dependencies
  named : ∃ failure, schema.failureOf? text = some failure ∧
    record = .dropped .dependencies (Expression.ofText text).kind text failure ∧
    record.message = "dropped " ++ (Expression.ofText text).kind.name ++ " specification "
      ++ Text.quoted text ++ ": " ++ failure.code.name ++ " (" ++ failure.message ++ ")"

/-- Records that note some texts, each of them once, and nothing else. -/
def AccountsFor (schema : Schema) (texts : List String) (records : List Notice) : Prop :=
  ∃ named : List String, named.Perm texts ∧ List.Forall₂ schema.NotesDrop named records

/-- A record notes one text only. -/
theorem NotesDrop.text_eq {other : String} {record : Notice} (first : schema.NotesDrop text record)
    (second : schema.NotesDrop other record) : text = other := by
  obtain ⟨failure, -, here, -⟩ := first.named
  obtain ⟨failure', -, there, -⟩ := second.named
  exact (Notice.dropped.inj (here.symm.trans there)).2.2.1

namespace AccountsFor

variable {texts : List String} {records : List Notice}

/-- What is noted is among the texts that are accounted for. -/
theorem mem_of_notesDrop (accounts : schema.AccountsFor texts records) {record : Notice}
    (member : record ∈ records) (notes : schema.NotesDrop text record) : text ∈ texts := by
  obtain ⟨named, same, each⟩ := accounts
  obtain ⟨other, listed, here⟩ := Traversal.exists_left_of_mem each member
  rw [notes.text_eq here, ← same.mem_iff]
  exact listed

/-- There are as many records as texts that are accounted for. -/
theorem length_eq (accounts : schema.AccountsFor texts records) :
    records.length = texts.length := by
  obtain ⟨named, same, each⟩ := accounts
  exact each.length_eq.symm.trans same.length_eq

end AccountsFor

/-- An inspected text contributes and has no record, or it is lost and has one. -/
theorem notesDrop_cases {outcome : Outcome Dependency}
    (read : Dependency.read schema text = .ok outcome) :
    ((!schema.contributes text) = false ∧ Notice.ofOutcome? .dependencies outcome = none) ∨
      ((!schema.contributes text) = true ∧ ∃ record,
        Notice.ofOutcome? .dependencies outcome = some record ∧ schema.NotesDrop text record) := by
  obtain ⟨sameText, sameKind⟩ := Dependency.labels_of_read read
  rw [contributes_of_read read]
  cases result : outcome.result with
  | ok dependency =>
    left
    simp [Notice.ofOutcome?, Outcome.failure?, Outcome.value?, result, Except.toOption]
  | error failure =>
    have failed : outcome.failure? = some failure := by rw [Outcome.failure?, result]
    have noted : Notice.ofOutcome? .dependencies outcome =
        some (.dropped .dependencies (Expression.ofText text).kind text failure) := by
      rw [Notice.ofOutcome?, failed, sameText, sameKind]
      rfl
    refine .inr ⟨by simp [Outcome.value?, result, Except.toOption], _, noted, rfl, rfl, failure,
      ?_, rfl, rfl⟩
    rw [failureOf?, read]
    exact failed

/-- The records of the requirements note the lost texts that announce a requirement. -/
theorem forall₂_lostOf_requires {outcomes : List (Outcome Requires)}
    (whole : schema.inspectRequires = .ok outcomes) :
    List.Forall₂ schema.NotesDrop (schema.lostOf .requires)
      (Notice.ofOutcomes true .dependencies outcomes) := by
  refine Traversal.forall₂_filter_filterMap (Traversal.mapM_eq_ok_iff.mp whole) ?_
  intro text member own here
  have announced := kind_of_mem_textsOfKind member
  have read : Dependency.read schema text = .ok (own.map .requires) := by
    rw [Dependency.read_of_requires announced, here]
    rfl
  rw [← Notice.ofOutcome?_map _ Dependency.requires]
  exact notesDrop_cases read

/-- The records of the choices note the lost texts that announce a choice. -/
theorem forall₂_lostOf_onlyOne (schema : Schema) :
    List.Forall₂ schema.NotesDrop (schema.lostOf .onlyOne)
      (Notice.ofOutcomes true .dependencies schema.inspectOnlyOne) := by
  have each : List.Forall₂ (fun text outcome => OnlyOne.read schema text = outcome)
      (schema.textsOfKind .onlyOne) schema.inspectOnlyOne := by
    rw [inspectOnlyOne, List.forall₂_map_right_iff, List.forall₂_same]
    exact fun _ _ => rfl
  refine Traversal.forall₂_filter_filterMap each ?_
  rintro text member _ rfl
  have announced := kind_of_mem_textsOfKind member
  rw [← Notice.ofOutcome?_map _ Dependency.onlyOne]
  exact notesDrop_cases (Dependency.read_of_onlyOne announced)

end Schema

/-! ## The operations -/

namespace Unchecked

/-- The records of the extraction of requirements, and behind them those of the extraction of
choices. -/
def extractionRecords (schema : Schema) (settings : Settings) : List Notice :=
  (extractRequires (.schema schema) settings).notices ++
    (extractOnlyOne (.schema schema) settings).notices

/-- The records of both extractions account for the lost texts of the two extracted kinds, and for
no others. -/
structure DropsNoted (schema : Schema) (requirements : List Requires) (choices : List OnlyOne)
    (records : List Notice) : Prop where
  /-- The requirements are what the listed texts contribute, in order. -/
  requirements : requirements = schema.dependencyTexts.filterMap schema.requirement?
  /-- The choices are what the listed texts contribute, in order. -/
  choices : choices = schema.dependencyTexts.filterMap schema.choice?
  /-- Each lost text of an extracted kind has one record, and there are no other records. -/
  noted : schema.AccountsFor (schema.lostTexts.filter Schema.announcesExtracted) records
  /-- A text that contributes has no record. -/
  kept : ∀ text, schema.contributes text = true → ∀ record ∈ records,
    ¬ schema.NotesDrop text record
  /-- A listed text of another kind is lost without a record. -/
  silent : ∀ text ∈ schema.dependencyTexts, Schema.announcesExtracted text = false →
    text ∈ schema.lostTexts ∧ ∀ record ∈ records, ¬ schema.NotesDrop text record
  /-- All lost texts have one record each exactly when no text of another kind is listed. -/
  complete : schema.AccountsFor schema.lostTexts records ↔
    ∀ text ∈ schema.dependencyTexts, Schema.announcesExtracted text = true

section

variable {schema : Schema} {settings : Settings}

theorem notices_extractRequires {outcomes : List (Outcome Requires)}
    (whole : schema.inspectRequires = .ok outcomes) :
    (extractRequires (.schema schema) settings).notices =
      Notice.ofOutcomes settings.noteDropped .dependencies outcomes := by
  rw [extractRequires_eq, whole]

theorem notices_extractOnlyOne (schema : Schema) (settings : Settings) :
    (extractOnlyOne (.schema schema) settings).notices =
      Notice.ofOutcomes settings.noteDropped .dependencies schema.inspectOnlyOne := rfl

/-- The records of both extractions note the lost texts of the extracted kinds. -/
theorem accountsFor_extractionRecords {outcomes : List (Outcome Requires)}
    (noting : settings.noteDropped = true) (whole : schema.inspectRequires = .ok outcomes) :
    schema.AccountsFor (schema.lostTexts.filter Schema.announcesExtracted)
      (extractionRecords schema settings) := by
  refine ⟨_, schema.lostOf_append_perm, ?_⟩
  rw [extractionRecords, notices_extractRequires whole, notices_extractOnlyOne, noting]
  exact List.rel_append (Schema.forall₂_lostOf_requires whole) schema.forall₂_lostOf_onlyOne

/-- Records of the lost texts of the extracted kinds account for all lost texts exactly when no text
of another kind is listed. -/
theorem accountsFor_lostTexts_iff {records : List Notice}
    (noted : schema.AccountsFor (schema.lostTexts.filter Schema.announcesExtracted) records) :
    schema.AccountsFor schema.lostTexts records ↔
      ∀ text ∈ schema.dependencyTexts, Schema.announcesExtracted text = true := by
  constructor
  · intro all text member
    -- Otherwise the text is lost, and there are fewer records than lost texts.
    by_contra other
    have lost := Schema.mem_lostTexts_of_not_extracted member (by simpa using other)
    have extracted := List.length_filter_eq_length_iff.mp
      (noted.length_eq.symm.trans all.length_eq)
    exact other (extracted text lost)
  · intro extracted
    have same : schema.lostTexts.filter Schema.announcesExtracted = schema.lostTexts := by
      rw [List.filter_eq_self]
      intro text lost
      exact extracted text (List.mem_of_mem_filter lost)
    rwa [same] at noted

/-- **Each dropped requirement and each dropped choice has one record, and nothing else has.** -/
theorem extractions_noteDrops {requirements : List Requires}
    (noting : settings.noteDropped = true)
    (returned : (extractRequires (.schema schema) settings).result = .ok requirements) :
    ∃ choices, (extractOnlyOne (.schema schema) settings).result = .ok choices ∧
      DropsNoted schema requirements choices (extractionRecords schema settings) := by
  obtain ⟨outcomes, whole, rfl⟩ := exists_outcomes_of_extractRequires returned
  have noted := accountsFor_extractionRecords noting whole
  refine ⟨_, result_extractOnlyOne schema settings, ?_⟩
  constructor
  case requirements => exact Schema.successes_of_inspectRequires whole
  case choices => rfl
  case noted => exact noted
  case kept =>
    intro text contributes record member notes
    have lost := List.mem_of_mem_filter (noted.mem_of_notesDrop member notes)
    simp [Schema.lostTexts, contributes] at lost
  case silent =>
    intro text listed other
    refine ⟨Schema.mem_lostTexts_of_not_extracted listed other, ?_⟩
    intro record member notes
    have extracted := (List.mem_filter.mp (noted.mem_of_notesDrop member notes)).2
    simp [other] at extracted
  case complete => exact accountsFor_lostTexts_iff noted

end

/-- A schema with two properties without a type, and with listed texts. -/
def listing (texts : List String) : Schema :=
  ⟨.ofList [⟨"a", none, none, none⟩, ⟨"b", none, none, none⟩],
    [(dependenciesExtension, .list (texts.map .text))]⟩

/-- A rule in order, one about an undeclared key listed twice, a choice of one key, a group and a
text without a keyword. -/
theorem drops_noted_among_texts :
    ∃ choices,
      (extractOnlyOne
        (.schema (listing ["IF a THEN b;", "IF a THEN c;", "OnlyOne(a);", "Group(a);",
          "IF a THEN c;", "a THEN b;"])) (.ofWords none none)).result = .ok choices ∧
      DropsNoted
        (listing ["IF a THEN b;", "IF a THEN c;", "OnlyOne(a);", "Group(a);", "IF a THEN c;",
          "a THEN b;"])
        [⟨"a", none, "b", none⟩] choices
        (extractionRecords
          (listing ["IF a THEN b;", "IF a THEN c;", "OnlyOne(a);", "Group(a);", "IF a THEN c;",
            "a THEN b;"]) (.ofWords none none)) :=
  extractions_noteDrops rfl rfl

/-- A text whose keyword is misspelt is lost without a record. -/
theorem misspelt_keyword_unnoted :
    (extractRequires (.schema (listing ["if a THEN b;"])) (.ofWords none none)).result = .ok [] ∧
      (extractOnlyOne (.schema (listing ["if a THEN b;"])) (.ofWords none none)).result = .ok [] ∧
      (listing ["if a THEN b;"]).lostTexts = ["if a THEN b;"] ∧
      ¬ (listing ["if a THEN b;"]).AccountsFor (listing ["if a THEN b;"]).lostTexts
        (extractionRecords (listing ["if a THEN b;"]) (.ofWords none none)) := by
  have lost : (listing ["if a THEN b;"]).lostTexts = ["if a THEN b;"] := rfl
  refine ⟨rfl, rfl, lost, fun accounts => ?_⟩
  have counted := accounts.length_eq
  rw [lost] at counted
  exact absurd counted (by decide)

end Unchecked

end FieldRules
