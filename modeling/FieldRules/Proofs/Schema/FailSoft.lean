import FieldRules.Proofs.Group.FirstCome
import FieldRules.Proofs.Group.Partition
import FieldRules.Proofs.Rule.ReadRequires
import FieldRules.Proofs.Traversal

/-!
# Extraction continues past bad entries

What a listed text contributes to the extracted requirements and choices depends
on that text alone, so a text that is no rule costs its own entry and no other
(`Schema.requirement?`, `Schema.choice?`).  A group that is refused can be left
out of the schema without changing the groups that are extracted.

There are two exceptions, and the statement gives both exactly
(`Unchecked.FailsSoftly`).  An overlong integer in a requirement between keys in
order makes the whole extraction be refused, and so does the name of a group that
cannot be written.
-/

set_option autoImplicit false

namespace FieldRules

/-! ## The part of each text -/

namespace Schema

variable {schema other : Schema}

/-- The requirement that a text states on its own. -/
def requirement? (schema : Schema) (text : String) : Option Requires :=
  (Requires.read schema text).toOption.bind Outcome.value?

/-- The choice that a text states on its own. -/
def choice? (schema : Schema) (text : String) : Option OnlyOne :=
  (OnlyOne.read schema text).value?

/-- A text that states a requirement announces one. -/
theorem kind_of_requirement? {text : String} {rule : Requires}
    (stated : schema.requirement? text = some rule) :
    (Expression.ofText text).kind = .requires := by
  rcases Requires.read_cases schema text with ⟨prerequisite, dependant, recognised, -⟩ |
    ⟨failure, failed⟩
  · rw [recognised]
    rfl
  · rw [requirement?, failed] at stated
    exact absurd stated (by simp [Except.toOption, Outcome.value?])

/-- A text that states a choice announces one. -/
theorem kind_of_choice? {text : String} {rule : OnlyOne}
    (stated : schema.choice? text = some rule) :
    (Expression.ofText text).kind = .onlyOne := by
  unfold choice? OnlyOne.read Expression.toOnlyOne at stated
  split at stated
  · next recognised =>
    rw [recognised]
    rfl
  · exact absurd stated (by simp [Outcome.value?, Except.toOption])

theorem requirement?_of_kind {text : String}
    (other : (Expression.ofText text).kind ≠ .requires) :
    schema.requirement? text = none := by
  rw [Option.eq_none_iff_forall_ne_some]
  intro rule stated
  exact other (kind_of_requirement? stated)

theorem choice?_of_kind {text : String} (other : (Expression.ofText text).kind ≠ .onlyOne) :
    schema.choice? text = none := by
  rw [Option.eq_none_iff_forall_ne_some]
  intro rule stated
  exact other (kind_of_choice? stated)

/-- The texts that announce a kind contribute what all texts contribute, if the other texts
contribute nothing. -/
theorem filterMap_textsOfKind {β : Type} {part? : String → Option β} {kind : Kind}
    (announced : ∀ text item, part? text = some item → (Expression.ofText text).kind = kind) :
    (schema.textsOfKind kind).filterMap part? = schema.dependencyTexts.filterMap part? := by
  rw [textsOfKind, List.filterMap_filter]
  refine List.filterMap_congr fun text _ => ?_
  cases part : part? text with
  | none => simp
  | some item => simp [announced text item part]

/-- What was read successfully is what each text states on its own. -/
theorem successes_of_mapM {β : Type} {read : String → Except DigitFault (Outcome β)}
    {texts : List String} {outcomes : List (Outcome β)} (whole : texts.mapM read = .ok outcomes) :
    Outcome.successes outcomes =
      texts.filterMap fun text => (read text).toOption.bind Outcome.value? := by
  refine Traversal.filterMap_eq_of_forall₂ (Traversal.mapM_eq_ok_iff.mp whole) ?_
  intro text outcome here
  rw [here]
  rfl

/-- The requirements that were read successfully are what all texts state. -/
theorem successes_of_inspectRequires {outcomes : List (Outcome Requires)}
    (whole : schema.inspectRequires = .ok outcomes) :
    Outcome.successes outcomes = schema.dependencyTexts.filterMap schema.requirement? :=
  (successes_of_mapM whole).trans (filterMap_textsOfKind fun _ _ => kind_of_requirement?)

/-! ## Overlong texts -/

/-- A text with an overlong literal announces a requirement. -/
theorem HoldsOverlong.kind {text : String} (overlong : schema.HoldsOverlong text) :
    (Expression.ofText text).kind = .requires := by
  obtain ⟨prerequisite, dependant, recognised, -⟩ := overlong
  rw [recognised]
  rfl

/-- Reading a rule of any kind is refused where reading a requirement is, and alike. -/
theorem dependency_read_eq_error_iff {text : String} {fault : DigitFault} :
    Dependency.read schema text = .error fault ↔ Requires.read schema text = .error fault := by
  unfold Dependency.read Requires.read
  cases recognised : Expression.ofText text with
  | requires prerequisite dependant =>
    dsimp only
    cases (Expression.requires prerequisite dependant).toRequires schema text with
    | error cause => simp [Except.map]
    | ok outcome => simp [Except.map]
  | keys kind listed =>
    cases kind with
    | onlyOne => simp [Expression.toRequires]
    | group => simp [Expression.toRequires]
  | malformedRequires => simp [Expression.toRequires]
  | malformedKeys kind fault => simp [Expression.toRequires]
  | unknownKeyword => simp [Expression.toRequires]

/-- Texts are read by a reader that is refused for overlong literals only when none has one. -/
theorem exists_mapM_iff {β : Type} {read : String → Except DigitFault (Outcome β)}
    {texts : List String}
    (refused : ∀ text fault, read text = .error fault ↔ Requires.read schema text = .error fault) :
    (∃ outcomes, texts.mapM read = .ok outcomes) ↔
      ∀ text ∈ texts, ¬ schema.HoldsOverlong text := by
  rw [Traversal.exists_mapM_eq_ok_iff]
  refine forall₂_congr fun text _ => ?_
  rw [← Requires.exists_error_iff]
  cases result : read text with
  | ok outcome =>
    refine ⟨fun _ => ?_, fun _ => ⟨outcome, rfl⟩⟩
    rintro ⟨fault, failed⟩
    exact absurd ((refused text fault).mpr failed) (by simp [result])
  | error fault =>
    refine ⟨fun read => absurd read (by simp), fun short => ?_⟩
    exact absurd ⟨fault, (refused text fault).mp result⟩ short

/-- With an overlong literal among them, texts are refused for a count of digits beyond the
limit. -/
theorem exists_mapM_refusal {β : Type} {read : String → Except DigitFault (Outcome β)}
    {texts : List String}
    (refused : ∀ text fault, read text = .error fault ↔ Requires.read schema text = .error fault)
    (overlong : ∃ text ∈ texts, schema.HoldsOverlong text) :
    ∃ count, digitLimit < count ∧ texts.mapM read = .error (.tooLongToRead count) := by
  cases whole : texts.mapM read with
  | ok outcomes =>
    obtain ⟨text, member, holds⟩ := overlong
    exact absurd holds ((exists_mapM_iff refused).mp ⟨outcomes, whole⟩ text member)
  | error fault =>
    obtain ⟨before, text, behind, -, -, failed⟩ := Traversal.exists_of_mapM_eq_error whole
    obtain ⟨count, rfl, long⟩ :=
      Requires.tooLong_of_read_eq_error ((refused text fault).mp failed)
    exact ⟨count, long, rfl⟩

/-- The texts that announce a requirement are among all texts, and the overlong texts are among
them. -/
theorem forall_textsOfKind_requires :
    (∀ text ∈ schema.textsOfKind .requires, ¬ schema.HoldsOverlong text) ↔
      ∀ text ∈ schema.dependencyTexts, ¬ schema.HoldsOverlong text := by
  constructor
  · intro short text member overlong
    have announced : text ∈ schema.textsOfKind .requires := by
      rw [textsOfKind, List.mem_filter, overlong.kind]
      exact ⟨member, rfl⟩
    exact short text announced overlong
  · intro short text member
    exact short text (List.mem_of_mem_filter member)

/-! ## Groups without a refused one -/

/-- A group that was refused can be left out. -/
theorem successes_eraseIdx {outcomes : List (Outcome Group)} {place : Nat} {outcome : Outcome Group}
    {failure : Failure} (found : outcomes[place]? = some outcome)
    (failed : outcome.result = .error failure) :
    Outcome.successes (outcomes.eraseIdx place) = Outcome.successes outcomes := by
  have shape := eq_take_append_drop found
  have nothing : outcome.value? = none := by rw [Outcome.value?, failed]; rfl
  rw [List.eraseIdx_eq_take_drop_succ]
  conv_rhs => rw [shape]
  simp only [Outcome.successes, List.filterMap_append, List.filterMap_cons, nothing]

/-- Leaving out a refused group of a schema leaves the registered groups as they are. -/
theorem successes_of_left_out {place : Nat} {outcome : Outcome Group} {failure : Failure}
    (same : other.properties = schema.properties)
    (leftOut : other.groupTexts = schema.groupTexts.eraseIdx place)
    (found : schema.inspectGroups[place]? = some outcome)
    (failed : outcome.result = .error failure) :
    Outcome.successes other.inspectGroups = Outcome.successes schema.inspectGroups := by
  have inside : place < schema.groupTexts.length := by
    obtain ⟨bound, -⟩ := List.getElem?_eq_some_iff.mp found
    rwa [inspectGroups, registerGroups, length_registerFrom] at bound
  obtain ⟨outcome', here, -, without⟩ := schema.exists_outcome_at (List.getElem?_eq_getElem inside)
  have equal : outcome' = outcome := Option.some.inj (here.symm.trans found)
  rw [inspectGroups, registerGroups_congr same, leftOut, without failure (equal ▸ failed)]
  exact successes_eraseIdx found failed

end Schema

/-! ## The operations -/

namespace Unchecked

/-- The requirements of a schema with the notices of those that failed. -/
theorem extractRequires_eq (schema : Schema) (settings : Settings) :
    extractRequires (.schema schema) settings =
      match schema.inspectRequires with
      | .error fault => .refuse (.digits fault)
      | .ok outcomes =>
        ⟨Notice.ofOutcomes settings.noteDropped .dependencies outcomes,
          .ok (Outcome.successes outcomes)⟩ := by
  have opened : extractRequires (.schema schema) settings =
      (Attempt.ofExcept .digits (schema.extractRequires settings)).andThen
        fun found => Attempt.ofNoted found := rfl
  rw [opened, Schema.extractRequires]
  cases schema.inspectRequires with
  | error fault => rfl
  | ok outcomes => rfl

theorem result_extractRequires (schema : Schema) (settings : Settings) :
    (extractRequires (.schema schema) settings).result =
      (schema.inspectRequires.map Outcome.successes).mapError .digits := by
  rw [extractRequires_eq]
  cases schema.inspectRequires with
  | error fault => rfl
  | ok outcomes => rfl

/-- Requirements that are returned are those of the inspected texts. -/
theorem exists_outcomes_of_extractRequires {schema : Schema} {settings : Settings}
    {rules : List Requires}
    (returned : (extractRequires (.schema schema) settings).result = .ok rules) :
    ∃ outcomes, schema.inspectRequires = .ok outcomes ∧ rules = Outcome.successes outcomes := by
  rw [result_extractRequires, Traversal.mapError_eq_ok_iff] at returned
  obtain ⟨outcomes, whole, same⟩ := Traversal.exists_of_map_eq_ok returned
  exact ⟨outcomes, whole, same.symm⟩

theorem result_extractOnlyOne (schema : Schema) (settings : Settings) :
    (extractOnlyOne (.schema schema) settings).result =
      .ok (schema.dependencyTexts.filterMap schema.choice?) := by
  have opened : (extractOnlyOne (.schema schema) settings).result =
      .ok (((schema.textsOfKind .onlyOne).map (OnlyOne.read schema)).filterMap
        Outcome.value?) := rfl
  rw [opened, List.filterMap_map]
  exact congrArg Except.ok
    (Schema.filterMap_textsOfKind fun text item => Schema.kind_of_choice?)

theorem checkType_name (type : DataType) : checkType (.text type.name) = pure type := by
  simp only [checkType, DataType.ofValue?, DataType.ofName?_name]

theorem result_extractOnlyOneByType (schema : Schema) (settings : Settings) (type : Value) :
    (extractOnlyOneByType (.schema schema) settings type).result =
      (checkType type).result.map fun wanted =>
        schema.filterByType wanted (schema.dependencyTexts.filterMap schema.choice?) := by
  have opened : (extractOnlyOneByType (.schema schema) settings type).result =
      ((checkType type).andThen fun wanted =>
        pure (schema.filterByType wanted (schema.extractOnlyOne settings).value)).result := rfl
  have choices : (schema.extractOnlyOne settings).value =
      schema.dependencyTexts.filterMap schema.choice? :=
    Except.ok.inj (result_extractOnlyOne schema settings)
  rw [opened, choices, Attempt.andThen]
  cases (checkType type).result with
  | error refusal => rfl
  | ok wanted => rfl

theorem result_inspectDependencies (schema : Schema) (kind : Option Kind) :
    (inspectDependencies (.schema schema) (kind.map Kind.name)).result =
      (schema.inspectDependencies kind).mapError .digits := by
  have opened : inspectDependencies (.schema schema) (kind.map Kind.name) =
      Attempt.ofExcept .digits (schema.inspectDependencies kind) := by
    cases kind with
    | none => rfl
    | some wanted => cases wanted <;> rfl
  rw [opened]
  cases schema.inspectDependencies kind with
  | error fault => rfl
  | ok outcomes => rfl

theorem result_coerce (type : Option DataType) (content : String) :
    (coerce type (some content)).result =
      (Literal.readChars type content.toList).mapError .digits := by
  have opened : coerce type (some content) =
      Attempt.ofExcept .digits (Literal.readChars type content.toList) := rfl
  rw [opened]
  cases Literal.readChars type content.toList with
  | error fault => rfl
  | ok value => rfl

/-- Typing the literal of a side on its own gives what the reader of requirements finds. -/
theorem result_coerce_of_readSide {schema : Schema} {side : Side} {value : Option Literal}
    (read : schema.readSide side = .ok value) :
    (coerce (schema.typeOf side.key) side.literal).result = .ok value :=
  congrArg (fun result => (Attempt.ofExcept Refusal.digits result).result) read

/-! ## What is extracted -/

/-- Typing a literal gives no value for a text that does not fit, and is refused for an overlong
integer only. -/
structure CoercesSoftly (type : Option DataType) (content : String) : Prop where
  /-- A text is typed as no value exactly when it does not fit the type. -/
  unfit : (coerce type (some content)).result = .ok none ↔
    ¬ Literal.TextFits type content.toList
  /-- Typing is refused exactly for an overlong integer, with the count of its digits. -/
  refused : ∀ refusal, (coerce type (some content)).result = .error refusal ↔
    ∃ count, Literal.IsOverlong type content.toList count ∧
      refusal = .digits (.tooLongToRead count)

/-- Extraction continues past bad entries: each entry contributes on its own.  It is refused for an
overlong integer and for a name that cannot be written only. -/
structure FailsSoftly (schema : Schema) (settings : Settings) : Prop where
  /-- Without an overlong text, the requirements are what each text states on its own. -/
  requirements : (∀ text ∈ schema.dependencyTexts, ¬ schema.HoldsOverlong text) →
    (extractRequires (.schema schema) settings).result =
      .ok (schema.dependencyTexts.filterMap schema.requirement?)
  /-- With an overlong text, the extraction of requirements is refused. -/
  requirementsRefused : (∃ text ∈ schema.dependencyTexts, schema.HoldsOverlong text) →
    ∃ count, digitLimit < count ∧
      (extractRequires (.schema schema) settings).result = .error (.digits (.tooLongToRead count))
  /-- A text that relates two keys states a requirement, and each literal is typed on its own. -/
  values : ∀ (text : String) (prerequisite dependant : Side),
    Expression.ofText text = .requires prerequisite dependant →
    schema.Relates prerequisite dependant → ¬ schema.HoldsOverlong text →
    ∃ first second,
      (coerce (schema.typeOf prerequisite.key) prerequisite.literal).result = .ok first ∧
      (coerce (schema.typeOf dependant.key) dependant.literal).result = .ok second ∧
      schema.requirement? text = some ⟨prerequisite.key, first, dependant.key, second⟩
  /-- The choices are what each text states on its own. -/
  choices : (extractOnlyOne (.schema schema) settings).result =
    .ok (schema.dependencyTexts.filterMap schema.choice?)
  /-- Without an overlong text among those asked for, each of them has its own outcome. -/
  inspection : ∀ kind, (∀ text ∈ schema.textsOf kind, ¬ schema.HoldsOverlong text) →
    ∃ outcomes, (inspectDependencies (.schema schema) (kind.map Kind.name)).result = .ok outcomes ∧
      List.Forall₂ (fun text outcome => Dependency.read schema text = .ok outcome)
        (schema.textsOf kind) outcomes
  /-- With an overlong text among those asked for, the inspection is refused. -/
  inspectionRefused : ∀ kind, (∃ text ∈ schema.textsOf kind, schema.HoldsOverlong text) →
    ∃ count, digitLimit < count ∧
      (inspectDependencies (.schema schema) (kind.map Kind.name)).result =
        .error (.digits (.tooLongToRead count))
  /-- When the names of the groups can be written, the groups are returned, and they are the same
  when a refused group is left out of the schema. -/
  groups : ∀ choice, (schema.extension groupsExtension).namesWritable = true →
    ∃ outcomes shown, (inspectGroups (.schema schema)).result = .ok outcomes ∧
      (extractGroups (.schema schema) settings choice).result = .ok shown ∧
      ∀ (other : Schema) (place : Nat) (outcome : Outcome Group) (failure : Failure),
        other.properties = schema.properties →
        (other.extension groupsExtension).namesWritable = true →
        other.groupTexts = schema.groupTexts.eraseIdx place →
        outcomes[place]? = some outcome → outcome.result = .error failure →
        (extractGroups (.schema other) settings choice).result = .ok shown
  /-- When the name of some group cannot be written, the extraction of groups is refused for the
  first such name. -/
  groupsRefused : ∀ choice, (schema.extension groupsExtension).namesWritable = false →
    ∃ fault, (schema.extension groupsExtension).namesFault? = some fault ∧
      (extractGroups (.schema schema) settings choice).result = .error (.ofDisplay fault)

theorem coercesSoftly (type : Option DataType) (content : String) :
    CoercesSoftly type content where
  unfit := by
    rw [result_coerce, ← Literal.readChars_eq_none_iff]
    cases Literal.readChars type content.toList with
    | error fault => simp [Except.mapError]
    | ok value => simp [Except.mapError]
  refused refusal := by
    rw [result_coerce]
    constructor
    · intro failed
      cases read : Literal.readChars type content.toList with
      | ok value => exact absurd failed (by simp [read, Except.mapError])
      | error fault =>
        obtain ⟨count, overlong, rfl⟩ := Literal.readChars_eq_error_iff.mp read
        rw [read] at failed
        exact ⟨count, overlong, (Except.error.inj failed).symm⟩
    · rintro ⟨count, overlong, rfl⟩
      rw [Literal.readChars_eq_error_iff.mpr ⟨count, overlong, rfl⟩]
      rfl

variable (schema : Schema) (settings : Settings)

theorem result_extractRequires_of_short
    (short : ∀ text ∈ schema.dependencyTexts, ¬ schema.HoldsOverlong text) :
    (extractRequires (.schema schema) settings).result =
      .ok (schema.dependencyTexts.filterMap schema.requirement?) := by
  have among := Schema.forall_textsOfKind_requires.mpr short
  obtain ⟨outcomes, whole⟩ := (Schema.exists_mapM_iff fun _ _ => Iff.rfl).mpr among
  have returned : schema.inspectRequires = .ok outcomes := whole
  rw [result_extractRequires, returned, ← Schema.successes_of_inspectRequires returned]
  rfl

theorem result_extractRequires_of_overlong
    (overlong : ∃ text ∈ schema.dependencyTexts, schema.HoldsOverlong text) :
    ∃ count, digitLimit < count ∧
      (extractRequires (.schema schema) settings).result =
        .error (.digits (.tooLongToRead count)) := by
  have among : ∃ text ∈ schema.textsOfKind .requires, schema.HoldsOverlong text := by
    by_contra none
    push Not at none
    obtain ⟨text, member, holds⟩ := overlong
    exact Schema.forall_textsOfKind_requires.mp none text member holds
  obtain ⟨count, long, whole⟩ := Schema.exists_mapM_refusal (fun _ _ => Iff.rfl) among
  refine ⟨count, long, ?_⟩
  rw [result_extractRequires, Schema.inspectRequires, whole]
  rfl

/-- A requirement between keys in order holds each literal as it is typed on its own. -/
theorem exists_typed_values {text : String} {prerequisite dependant : Side}
    (recognised : Expression.ofText text = .requires prerequisite dependant)
    (relates : schema.Relates prerequisite dependant) (short : ¬ schema.HoldsOverlong text) :
    ∃ first second,
      (coerce (schema.typeOf prerequisite.key) prerequisite.literal).result = .ok first ∧
      (coerce (schema.typeOf dependant.key) dependant.literal).result = .ok second ∧
      schema.requirement? text = some ⟨prerequisite.key, first, dependant.key, second⟩ := by
  rcases Requires.read_sides recognised relates with ⟨first, second, left, right, read⟩ |
    ⟨side, fault, -, -, refused⟩
  · refine ⟨first, second, result_coerce_of_readSide left, result_coerce_of_readSide right, ?_⟩
    rw [Schema.requirement?, read]
    rfl
  · exact absurd (Requires.exists_error_iff.mp ⟨fault, refused⟩) short

/-- **Extraction continues past bad entries, apart from overlong integers and names that cannot be
written.** -/
theorem extraction_failsSoftly :
    FailsSoftly schema settings ∧ ∀ type content, CoercesSoftly type content := by
  refine ⟨?_, coercesSoftly⟩
  have refused (text : String) (fault : DigitFault) :
      Dependency.read schema text = .error fault ↔ Requires.read schema text = .error fault :=
    Schema.dependency_read_eq_error_iff
  constructor
  case requirements => exact result_extractRequires_of_short schema settings
  case requirementsRefused => exact result_extractRequires_of_overlong schema settings
  case values => exact fun text prerequisite dependant => exists_typed_values schema
  case choices => exact result_extractOnlyOne schema settings
  case inspection =>
    intro kind short
    obtain ⟨outcomes, whole⟩ := (Schema.exists_mapM_iff refused).mpr short
    refine ⟨outcomes, ?_, Traversal.mapM_eq_ok_iff.mp whole⟩
    rw [result_inspectDependencies, Schema.inspectDependencies, whole]
    rfl
  case inspectionRefused =>
    intro kind overlong
    obtain ⟨count, long, whole⟩ := Schema.exists_mapM_refusal refused overlong
    refine ⟨count, long, ?_⟩
    rw [result_inspectDependencies, Schema.inspectDependencies, whole]
    rfl
  case groups =>
    intro choice writable
    refine ⟨schema.inspectGroups, schema.assembleGroups (Outcome.successes schema.inspectGroups)
      (showsSingles settings choice), ?_, ?_, ?_⟩
    · exact result_inspectGroups_of_writable writable
    · exact result_extractGroups_of_writable settings choice writable
    · intro other place outcome failure same alsoWritable leftOut found failed
      rw [result_extractGroups_of_writable settings choice alsoWritable,
        Schema.assembleGroups_congr same, Schema.successes_of_left_out same leftOut found failed]
  case groupsRefused =>
    intro choice unwritable
    obtain ⟨fault, met⟩ := Value.exists_namesFault unwritable
    exact ⟨fault, met, result_extractGroups_of_fault settings choice met⟩

/-! ## One overlong integer -/

/-- A rule whose second literal is an integer of many digits. -/
def manyOnes (count : Nat) : String :=
  "IF a THEN b==" ++ String.ofList (List.replicate count '1') ++ ";"

theorem solid_ones {count : Nat} : ∀ c ∈ List.replicate count '1', Text.isBlank c = false := by
  intro c member
  rw [List.eq_of_mem_replicate member]
  decide

theorem ofText_manyOnes (count : Nat) :
    Expression.ofText (manyOnes count) =
      .requires ⟨"a", none⟩ ⟨"b", some (String.ofList (List.replicate count '1'))⟩ := by
  let spelling : Expression.Spelling :=
    { behindIf := [' ']
      side := (['a'], none)
      consequent :=
        { beforeWord := [' ']
          behindWord := [' ']
          side := (['b'], some (List.replicate count '1'))
          beforeClose := []
          beforeWord_gap := Text.isGap_space
          behindWord_gap := Text.isGap_space
          side_key := ⟨by simp, List.forall_mem_singleton.mpr (by decide)⟩
          beforeClose_blank := rfl }
      behindIf_gap := Text.isGap_space
      side_key := ⟨by simp, List.forall_mem_singleton.mpr (by decide)⟩ }
  have shape : (manyOnes count).toList = spelling.chars := by
    simp [manyOnes, spelling, Expression.Spelling.chars, Expression.Spelling.behindWord,
      Expression.Spelling.behindKey, Expression.Consequent.chars, Expression.Consequent.behindKey,
      Expression.constraint, Expression.ifWord, Expression.thenWord, Expression.equalsSign]
  have trimmed : Text.trim spelling.chars = spelling.chars := by
    rw [← shape, manyOnes, String.toList_append]
    apply Text.trim_eq_self
    · intro c first
      obtain rfl : 'I' = c := by simpa using first
      decide
    · intro c last
      have close : ";".toList = [';'] := rfl
      rw [close, List.getLast?_concat] at last
      obtain rfl : ';' = c := Option.some.inj last
      decide
  have whole : Text.trimEnd (List.replicate count '1') = List.replicate count '1' :=
    Text.trimEnd_eq_self fun c last => solid_ones c (List.mem_of_getLast? last)
  have absent : spelling.side.2 = none := rfl
  have read := Expression.sides?_without_literal absent
  rw [Expression.ofText, shape, trimmed]
  refine Expression.ofTrimmed_eq_requires_iff.mpr ⟨_, _, _, rfl, read, rfl, ?_⟩
  simp [spelling, whole, Expression.side]

/-- The rule has an overlong literal when the integer has too many digits. -/
theorem holdsOverlong_manyOnes {count : Nat} (long : digitLimit < count)
    (isInteger : schema.typeOf "b" = some .integer)
    (relates : schema.Relates ⟨"a", none⟩
      ⟨"b", some (String.ofList (List.replicate count '1'))⟩) :
    schema.HoldsOverlong (manyOnes count) := by
  refine ⟨_, _, ofText_manyOnes count, relates, count, .inr ⟨_, rfl, .inl isInteger, ?_⟩⟩
  have nonempty : List.replicate count '1' ≠ [] := by
    rw [ne_eq, List.replicate_eq_nil_iff]
    exact Nat.ne_of_gt (Nat.zero_lt_of_lt long)
  have digits : ∀ c ∈ List.replicate count '1', Text.isDigit c = true := by
    intro c member
    rw [List.eq_of_mem_replicate member]
    decide
  refine ⟨⟨[], List.replicate count '1', .inl rfl, nonempty, digits⟩, ?_,
    List.length_replicate, long⟩
  rw [String.toList_ofList, Literal.trim_of_solid solid_ones]
  rfl

/-- A rule in order is lost beside a rule with an overlong integer. -/
theorem nothing_extracted_beside_overlong_integer :
    ∃ count, digitLimit < count ∧
      (extractRequires
        (.schema ⟨.ofList [⟨"a", none, none, none⟩, ⟨"b", some .integer, none, none⟩],
          [(dependenciesExtension,
            .list [.text "IF b THEN a;", .text (manyOnes (digitLimit + 1))])]⟩)
        ⟨true, true⟩).result = .error (.digits (.tooLongToRead count)) := by
  refine result_extractRequires_of_overlong _ _ ⟨_, List.mem_cons_of_mem _ List.mem_cons_self, ?_⟩
  exact holdsOverlong_manyOnes _ (Nat.lt_succ_self _) (by decide)
    ⟨by decide, by decide, by simp⟩

end Unchecked

end FieldRules
