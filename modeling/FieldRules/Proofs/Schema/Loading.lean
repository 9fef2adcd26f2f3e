import FieldRules.Calendar
import FieldRules.Proofs.Schema.ShownDepth
import FieldRules.Schema.Loading

/-!
# Loading schemas from texts

A text that is loaded should give a schema, or be refused as a schema
(`Schema.EndsProperly`).  A text that is no YAML is refused so, and so is a document
that is no mapping.

How a text is loaded depends on what the reader of YAML makes of it, and is settled
for any reader (`Schema.loadsReading`).  Loading ends as it should unless the reader
passes something on, or something that the document shows cannot be written.

A reader may pass on value errors, as they come up when a day or an integer is made
of a scalar (`Reader.PassesOnValueErrors`).  Then every text that is not loaded as it
should be is refused with a value error, or for its depth (`LoadsText.explained`).
Both happen: a text of the form of YAML may hold a day in a thirteenth month, and the
fault of that scalar is what the text is refused with.
-/

set_option autoImplicit false

namespace FieldRules

/-- A reader refuses a text as unreadable, or passes on a value error. -/
def Reader.PassesOnValueErrors (read : Reader) : Prop :=
  ∀ text className message, read text = .error (.passedOn className message) →
    className = "ValueError"

namespace Schema

/-- An attempt that gives a schema, or is refused as attempts at schemas are. -/
def EndsProperly (attempt : Attempt Schema) : Prop :=
  (∃ schema, attempt.result = .ok schema) ∨ ∃ fault, attempt.result = .error (.schema fault)

/-! ## Documents -/

theorem ofDocument_of_other {document : Value} (other : ∀ entries, document ≠ .map entries) :
    ofDocument document = Attempt.refuse (.schema (.notMapping document.kindName)) := by
  cases document with
  | map entries => exact absurd rfl (other entries)
  | _ => rfl

/-- A document that is no mapping shows nothing. -/
theorem shownFault?_of_other {document : Value} (other : ∀ entries, document ≠ .map entries) :
    shownFault? document = none := by
  cases document with
  | map entries => exact absurd rfl (other entries)
  | _ => rfl

/-- Something that a document shows is nested too deeply if that is the fault which is met. -/
theorem not_showsShallow {document : Value} (deep : shownFault? document = some .tooDeep) :
    ¬ ShowsShallow document := by
  intro shallow
  obtain ⟨declarations, here, found⟩ := exists_of_shownFault? deep
  obtain ⟨entry, listed, met⟩ := List.exists_of_findSome?_eq_some found
  obtain ⟨shown, part, exceeds⟩ := exists_deep_part met
  exact Nat.not_le.mpr exceeds (shallow declarations here entry listed shown part)

/-- A document is read properly exactly when no fault is met in what it shows. -/
theorem endsProperly_ofDocument_iff {document : Value} :
    EndsProperly (ofDocument document) ↔ shownFault? document = none := by
  rcases document.map_or_other with ⟨entries, rfl⟩ | other
  · cases met : shownFault? (.map entries) with
    | none =>
      obtain ⟨schema, returned, -⟩ := exists_schema_of_shown met
      exact iff_of_true (.inl ⟨schema, returned⟩) rfl
    | some fault =>
      have refused := ofDocument_of_fault met
      refine iff_of_false ?_ nofun
      rintro (⟨schema, returned⟩ | ⟨asSchema, refusedToo⟩)
      · exact nomatch refused.symm.trans returned
      · have same := Except.error.inj (refused.symm.trans refusedToo)
        cases fault <;> exact nomatch same
  · have refused := congrArg Attempt.result (ofDocument_of_other other)
    exact iff_of_true (.inr ⟨_, refused⟩) (shownFault?_of_other other)

/-! ## Readings -/

variable {read : Reader} {text : String}

theorem load_of_document {document : Value} (made : read text = .ok document) :
    load read (.text text) = ofDocument document := by
  change ofText read text = _
  rw [ofText, made]
  exact pure_bind _ _

theorem load_of_fault {fault : ReadingFault} (failed : read text = .error fault) :
    (load read (.text text)).result = .error (.ofReading fault) := by
  change (ofText read text).result = _
  rw [ofText, failed]
  rfl

/-- How a text is loaded, by what the reader makes of it. -/
structure LoadsReading (reading : Except ReadingFault Value) (loaded : Attempt Schema) : Prop where
  /-- A mapping in which no fault is met gives a schema. -/
  returned : ∀ entries, reading = .ok (.map entries) → shownFault? (.map entries) = none →
    ∃ schema, loaded.result = .ok schema ∧ Reflects entries schema loaded.notices
  /-- A mapping is refused for the first fault that is met in what it shows. -/
  hidden : ∀ entries fault, reading = .ok (.map entries) →
    shownFault? (.map entries) = some fault → loaded.result = .error (.ofDisplay fault)
  /-- A document that is no mapping is refused as such. -/
  notMapping : ∀ document, reading = .ok document → (∀ entries, document ≠ .map entries) →
    loaded.result = .error (.schema (.notMapping document.kindName))
  /-- A text that is no YAML is refused as unreadable, with the detail of the reader. -/
  unreadable : ∀ detail, reading = .error (.unreadable detail) →
    loaded.result = .error (.schema (.unreadable detail))
  /-- Every other fault is passed on as it is. -/
  passedOn : ∀ className message, reading = .error (.passedOn className message) →
    loaded.result = .error (.passedOn className message)
  /-- Loading ends as it should exactly when nothing is passed on and no fault is met. -/
  proper : EndsProperly loaded ↔
    (∀ className message, reading ≠ .error (.passedOn className message)) ∧
      ∀ document, reading = .ok document → shownFault? document = none

/-- **How any text is loaded with any reader.** -/
theorem loadsReading (read : Reader) (text : String) :
    LoadsReading (read text) (load read (.text text)) where
  returned entries made shown := by
    rw [load_of_document made]
    exact exists_schema_of_shown shown
  hidden entries fault made met := by
    rw [load_of_document made]
    exact ofDocument_of_fault met
  notMapping document made other := by
    rw [load_of_document made, ofDocument_of_other other]
    rfl
  unreadable detail failed := load_of_fault failed
  passedOn className message failed := load_of_fault failed
  proper := by
    cases reading : read text with
    | ok document =>
      rw [load_of_document reading, endsProperly_ofDocument_iff]
      constructor
      · intro shown
        refine ⟨nofun, ?_⟩
        rintro _ ⟨⟩
        exact shown
      · exact fun shown => shown.2 document rfl
    | error fault =>
      have refused := load_of_fault reading
      cases fault with
      | unreadable detail => exact iff_of_true (.inr ⟨_, refused⟩) ⟨nofun, nofun⟩
      | passedOn className message =>
        refine iff_of_false ?_ fun only => only.1 className message rfl
        rintro (⟨schema, returned⟩ | ⟨asSchema, refusedToo⟩)
        · exact nomatch refused.symm.trans returned
        · exact nomatch refused.symm.trans refusedToo

/-! ## Readers that pass on value errors -/

/-- How a text is loaded with a reader that passes on nothing but value errors. -/
structure LoadsText (read : Reader) (text : String) : Prop
    extends LoadsReading (read text) (load read (.text text)) where
  /-- A text is refused as no schema, with a value error, or because something that its document
  shows is nested too deeply. -/
  explained : ∀ refusal, (load read (.text text)).result = .error refusal →
    (∃ fault, refusal = .schema fault) ∨ refusal.className = "ValueError" ∨
      refusal = .tooDeep ∧ ∃ document, read text = .ok document ∧ ¬ ShowsShallow document

/-- **A text gives a schema or is refused as no schema, unless a value error of the reader is passed
on, or something that is shown cannot be written.** -/
theorem loading_explained (assumed : read.PassesOnValueErrors) (text : String) :
    LoadsText read text where
  toLoadsReading := loadsReading read text
  explained refusal refused := by
    have loads := loadsReading read text
    cases reading : read text with
    | error fault =>
      obtain rfl := Except.error.inj ((load_of_fault reading).symm.trans refused)
      cases fault with
      | unreadable detail => exact .inl ⟨_, rfl⟩
      | passedOn className message => exact .inr (.inl (assumed text className message reading))
    | ok document =>
      rcases document.map_or_other with ⟨entries, rfl⟩ | other
      · cases met : shownFault? (.map entries) with
        | none =>
          obtain ⟨schema, returned, -⟩ := loads.returned entries reading met
          exact nomatch returned.symm.trans refused
        | some fault =>
          obtain rfl := Except.error.inj ((loads.hidden entries fault reading met).symm.trans refused)
          cases fault with
          | tooLong => exact .inr (.inl rfl)
          | tooDeep => exact .inr (.inr ⟨rfl, _, rfl, not_showsShallow met⟩)
      · have asSchema := loads.notMapping document reading other
        exact .inl ⟨_, Except.error.inj (refused.symm.trans asSchema)⟩

/-! ## A day in a thirteenth month -/

/-- A document with a property whose default is the last day of a year. -/
def lastDay : String := "properties: \x7bstart: \x7bdefault: 2025-12-31\x7d\x7d\n"

/-- A document with a property whose default is a day in a thirteenth month. -/
def thirteenthMonth : String := "properties: \x7bstart: \x7bdefault: 2025-13-45\x7d\x7d\n"

/-- The entries of a document with a property whose default is a day. -/
def startingOn (date : Date) : List (Value × Value) :=
  [(.text "properties", .map [(.text "start", .map [(.text "default", .date date)])])]

/-- What is made of such a document: the parts of the day are checked when it is read. -/
def defaultDay (year month day : Nat) : Except ReadingFault Value :=
  match Date.ofParts year month day with
  | .ok date => .ok (.map (startingOn date))
  | .error fault => .error (.passedOn "ValueError" fault.message)

/-- What is said of a text that is nothing but an open bracket. -/
def bracketDetail : String :=
  "while parsing a flow node\nexpected the node content, but found '<stream end>'\n" ++
  "  in \"<unicode string>\", line 1, column 2:\n    [\n     ^"

/-- A reader that knows two documents, and says of every other text what is said of an open
bracket. -/
def dayReader : Reader := fun text =>
  if text = lastDay then defaultDay 2025 12 31
  else if text = thirteenthMonth then defaultDay 2025 13 45
  else .error (.unreadable bracketDetail)

theorem passesOnValueErrors_defaultDay {year month day : Nat} {className message : String}
    (failed : defaultDay year month day = .error (.passedOn className message)) :
    className = "ValueError" := by
  unfold defaultDay at failed
  split at failed
  · exact nomatch failed
  · cases failed
    rfl

theorem dayReader_passesOnValueErrors : dayReader.PassesOnValueErrors := by
  intro text className message failed
  unfold dayReader at failed
  split at failed
  · exact passesOnValueErrors_defaultDay failed
  · split at failed
    · exact passesOnValueErrors_defaultDay failed
    · exact nomatch failed

theorem dayReader_thirteenthMonth : dayReader thirteenthMonth =
    .error (.passedOn "ValueError" "month must be in 1..12") := by
  rw [dayReader, if_neg (by decide), if_pos rfl]
  rfl

/-- Of three texts one gives a schema, one has a value error passed on, and one is no schema. -/
theorem loads_with_dayReader :
    dayReader.PassesOnValueErrors ∧
    (∃ schema, (load dayReader (.text lastDay)).result = .ok schema ∧
      Reflects (startingOn ⟨2025, 12, 31⟩) schema (load dayReader (.text lastDay)).notices) ∧
    (load dayReader (.text thirteenthMonth)).result =
      .error (.passedOn "ValueError" "month must be in 1..12") ∧
    (load dayReader (.text "[")).result =
      .error (.schema (.unreadable bracketDetail)) := by
  have loads := loading_explained dayReader_passesOnValueErrors
  refine ⟨dayReader_passesOnValueErrors, (loads lastDay).returned _ ?_ ?_,
    (loads thirteenthMonth).passedOn _ _ dayReader_thirteenthMonth, (loads "[").unreadable _ ?_⟩
  · rw [dayReader, if_pos rfl]
    rfl
  · decide +kernel
  · rw [dayReader, if_neg (by decide), if_neg (by decide)]

/-- A text of the form of YAML is not refused as a schema, although a scalar in it has no value. -/
theorem improper_end_of_thirteenth_month :
    ¬ ∀ read : Reader, read.PassesOnValueErrors → ∀ text, EndsProperly (load read (.text text)) := by
  intro proper
  have passed := (loadsReading dayReader thirteenthMonth).proper.mp
    (proper dayReader dayReader_passesOnValueErrors thirteenthMonth)
  exact passed.1 _ _ dayReader_thirteenthMonth

end Schema

end FieldRules
