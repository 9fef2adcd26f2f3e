import FieldRules.Proofs.Schema.DropNotices
import FieldRules.Proofs.Settings

/-!
# Notices mirror the failures

An extraction inspects the texts of its kind, keeps the rules that were read and
notes the outcomes that failed.  Its records show these outcomes one by one and in
order (`Notice.forall₂_shows_ofOutcomes`), and every outcome is either recorded or
kept (`Notice.length_ofOutcomes_add`).

A word of the environment decides whether failures are noted.  It decides nothing
else: the result is the same under every word, a refusal included
(`MirrorsFailures`).  The extractions of requirements and choices are seen against
the inspection of their kind, in which the outcomes are the same up to the type of
the rule (`Schema.inspectDependencies_requires`,
`Schema.inspectDependencies_onlyOne`), and the extraction of groups against
registration.
-/

set_option autoImplicit false

namespace FieldRules

/-! ## Records of failed outcomes -/

section Outcomes

variable {α β : Type}

/-- Whether an outcome is a failure. -/
def Outcome.isFailure (outcome : Outcome α) : Bool := outcome.failure?.isSome

/-- A record for debugging that shows a failed outcome: its kind, its text in quotes, and the class
and the wording of its failure. -/
structure Notice.Shows (channel : Channel) (outcome : Outcome α) (record : Notice) : Prop where
  level : record.level = .debug
  channel : record.channel = channel
  message : ∃ failure, outcome.result = .error failure ∧
    record.message = "dropped " ++ outcome.kind.name ++ " specification "
      ++ Text.quoted outcome.specification ++ ": " ++ failure.code.name ++ " ("
      ++ failure.message ++ ")"

variable (channel : Channel) (outcomes : List (Outcome α))

/-- An outcome is no failure and has no record, or it is one and its record shows it. -/
theorem Notice.shows_cases (outcome : Outcome α) :
    (outcome.isFailure = false ∧ ofOutcome? channel outcome = none) ∨
      (outcome.isFailure = true ∧ ∃ record,
        ofOutcome? channel outcome = some record ∧ Shows channel outcome record) := by
  unfold Outcome.isFailure ofOutcome? Outcome.failure?
  cases result : outcome.result with
  | ok rule => exact .inl ⟨rfl, rfl⟩
  | error failure => exact .inr ⟨rfl, _, rfl, rfl, rfl, failure, result, rfl⟩

/-- The records show the failed outcomes, each once and in order. -/
theorem Notice.forall₂_shows_ofOutcomes :
    List.Forall₂ (Shows channel) (outcomes.filter Outcome.isFailure)
      (ofOutcomes true channel outcomes) := by
  have each : List.Forall₂ (fun item result : Outcome α => item = result) outcomes outcomes :=
    List.forall₂_same.mpr fun _ _ => rfl
  refine Traversal.forall₂_filter_filterMap each ?_
  rintro outcome - _ rfl
  exact shows_cases channel outcome

theorem Outcome.isSome_value? (outcome : Outcome α) :
    outcome.value?.isSome = !outcome.isFailure := by
  unfold value? isFailure failure?
  cases outcome.result <;> rfl

/-- There are as many kept rules as outcomes that are no failures. -/
theorem Outcome.length_successes :
    (successes outcomes).length = (outcomes.filter fun outcome => !outcome.isFailure).length := by
  rw [successes, List.length_filterMap_eq_countP, List.countP_eq_length_filter]
  simp only [isSome_value?]

/-- Every outcome is recorded or kept. -/
theorem Notice.length_ofOutcomes_add :
    (ofOutcomes true channel outcomes).length + (Outcome.successes outcomes).length =
      outcomes.length := by
  rw [← (forall₂_shows_ofOutcomes channel outcomes).length_eq, Outcome.length_successes]
  exact (List.length_eq_length_filter_add Outcome.isFailure).symm

variable (f : α → β)

theorem Notice.ofOutcomes_map (noteDropped : Bool) :
    ofOutcomes noteDropped channel (outcomes.map (Outcome.map f)) =
      ofOutcomes noteDropped channel outcomes := by
  unfold ofOutcomes
  rw [List.filterMap_map]
  simp only [Function.comp_def, ofOutcome?_map]

theorem Outcome.successes_map :
    successes (outcomes.map (Outcome.map f)) = (successes outcomes).map f := by
  unfold successes
  rw [List.filterMap_map, List.map_filterMap]
  simp only [Function.comp_def, value?_map]

end Outcomes

/-! ## One call -/

section Calls

variable {α γ : Type}

/-- A call, given the word for noting, mirrors the failed outcomes of an inspection, and the word
has no influence on what it returns.  The rules that it keeps are counted by `kept`. -/
structure MirrorsFailures (channel : Channel) (inspection : Attempt (List (Outcome α)))
    (call : Option String → Attempt γ) (kept : γ → List (Outcome α) → Nat) : Prop where
  /-- The result, or the refusal, is the same under every word. -/
  alike : ∀ dropped dropped' : Option String, (call dropped).result = (call dropped').result
  /-- A call that notes failures and returns has one record for each failed outcome, in order, and
  every outcome is recorded or kept. -/
  noted : ∀ dropped, Settings.Sets true dropped true →
    ∀ value, (call dropped).result = .ok value →
      ∃ outcomes, inspection.result = .ok outcomes ∧
        List.Forall₂ (Notice.Shows channel) (outcomes.filter Outcome.isFailure)
          (call dropped).notices ∧
        (call dropped).notices.length + kept value outcomes = outcomes.length
  /-- A call that does not note failures has no record. -/
  silent : ∀ dropped, Settings.Sets true dropped false → (call dropped).notices = []

namespace MirrorsFailures

variable {channel : Channel} {inspection : Attempt (List (Outcome α))}
  {call : Option String → Attempt γ} {kept : γ → List (Outcome α) → Nat}

/-- A call that returns one value under every word, with the notices of the inspected outcomes. -/
theorem of_returned {outcomes : List (Outcome α)} {value : γ}
    (inspected : inspection.result = .ok outcomes)
    (called : ∀ dropped, call dropped =
      ⟨Notice.ofOutcomes (Settings.switch dropped true) channel outcomes, .ok value⟩)
    (counted : kept value outcomes = (Outcome.successes outcomes).length) :
    MirrorsFailures channel inspection call kept where
  alike dropped dropped' := by rw [called, called]
  noted dropped on value' returned := by
    rw [called] at returned
    obtain rfl := Except.ok.inj returned
    refine ⟨outcomes, inspected, ?_⟩
    rw [called, Settings.switch_eq_iff.mpr on, counted]
    exact ⟨Notice.forall₂_shows_ofOutcomes channel outcomes,
      Notice.length_ofOutcomes_add channel outcomes⟩
  silent dropped off := by
    rw [called, Settings.switch_eq_iff.mpr off]
    rfl

/-- A call that is refused alike under every word, before anything is noted. -/
theorem of_refused {refusal : Refusal} (called : ∀ dropped, call dropped = .refuse refusal) :
    MirrorsFailures channel inspection call kept where
  alike dropped dropped' := by rw [called, called]
  noted dropped on value returned := by
    rw [called] at returned
    exact absurd returned (by simp [Attempt.refuse])
  silent dropped off := by
    rw [called]
    rfl

end MirrorsFailures

end Calls

/-! ## The operations -/

namespace Unchecked

variable (schema : Schema) (singletons : Option String)

theorem mirrorsFailures_extractRequires :
    MirrorsFailures .dependencies
      (inspectDependencies (.schema schema) (some Kind.requires.name))
      (fun dropped => extractRequires (.schema schema) (.ofWords singletons dropped))
      (fun rules _ => rules.length) := by
  cases whole : schema.inspectRequires with
  | error fault =>
    have called (dropped : Option String) :
        extractRequires (.schema schema) (.ofWords singletons dropped) =
          .refuse (.digits fault) := by
      rw [extractRequires_eq, whole]
    exact .of_refused called
  | ok outcomes =>
    have inspected :=
      result_inspectDependencies_of_kind (Schema.inspectDependencies_requires whole)
    have called (dropped : Option String) :
        extractRequires (.schema schema) (.ofWords singletons dropped) =
          ⟨Notice.ofOutcomes (Settings.switch dropped true) .dependencies
            (outcomes.map (Outcome.map Dependency.requires)), .ok (Outcome.successes outcomes)⟩ := by
      rw [extractRequires_eq, whole, Notice.ofOutcomes_map]
      rfl
    exact .of_returned inspected called (by rw [Outcome.successes_map, List.length_map])

theorem mirrorsFailures_extractOnlyOne :
    MirrorsFailures .dependencies
      (inspectDependencies (.schema schema) (some Kind.onlyOne.name))
      (fun dropped => extractOnlyOne (.schema schema) (.ofWords singletons dropped))
      (fun rules _ => rules.length) := by
  have inspected := result_inspectDependencies_of_kind schema.inspectDependencies_onlyOne
  have called (dropped : Option String) :
      extractOnlyOne (.schema schema) (.ofWords singletons dropped) =
        ⟨Notice.ofOutcomes (Settings.switch dropped true) .dependencies
          (schema.inspectOnlyOne.map (Outcome.map Dependency.onlyOne)),
          .ok (Outcome.successes schema.inspectOnlyOne)⟩ := by
    rw [Notice.ofOutcomes_map]
    rfl
  exact .of_returned inspected called (by rw [Outcome.successes_map, List.length_map])

theorem mirrorsFailures_extractGroups (choice : Value) :
    MirrorsFailures .groups (inspectGroups (.schema schema))
      (fun dropped => extractGroups (.schema schema) (.ofWords singletons dropped) choice)
      (fun _ outcomes => (Outcome.successes outcomes).length) := by
  cases met : (schema.extension groupsExtension).namesFault? with
  | some fault =>
    have called (dropped : Option String) :
        extractGroups (.schema schema) (.ofWords singletons dropped) choice =
          .refuse (.ofDisplay fault) := by
      rw [extractGroups_eq, met]
    exact .of_refused called
  | none =>
    have inspected : (inspectGroups (.schema schema)).result = .ok schema.inspectGroups := by
      rw [result_inspectGroups, met]
    -- The settings are read for single properties too, but from a word of their own.
    have alike (dropped : Option String) :
        showsSingles (.ofWords singletons dropped) choice =
          showsSingles (.ofWords singletons none) choice := by
      cases choice <;> rfl
    have called (dropped : Option String) :
        extractGroups (.schema schema) (.ofWords singletons dropped) choice =
          ⟨Notice.ofOutcomes (Settings.switch dropped true) .groups schema.inspectGroups,
            .ok (schema.assembleGroups (Outcome.successes schema.inspectGroups)
              (showsSingles (.ofWords singletons none) choice))⟩ := by
      rw [extractGroups_eq, met, alike]
      rfl
    exact .of_returned inspected called rfl

/-- **The records of an extraction mirror the failed outcomes of its inspection, and whether they
are given has no influence on its result.** -/
theorem notices_mirror_failures :
    MirrorsFailures .dependencies
        (inspectDependencies (.schema schema) (some Kind.requires.name))
        (fun dropped => extractRequires (.schema schema) (.ofWords singletons dropped))
        (fun rules _ => rules.length) ∧
      MirrorsFailures .dependencies
        (inspectDependencies (.schema schema) (some Kind.onlyOne.name))
        (fun dropped => extractOnlyOne (.schema schema) (.ofWords singletons dropped))
        (fun rules _ => rules.length) ∧
      ∀ choice, MirrorsFailures .groups (inspectGroups (.schema schema))
        (fun dropped => extractGroups (.schema schema) (.ofWords singletons dropped) choice)
        (fun _ outcomes => (Outcome.successes outcomes).length) :=
  ⟨mirrorsFailures_extractRequires schema singletons,
    mirrorsFailures_extractOnlyOne schema singletons,
    mirrorsFailures_extractGroups schema singletons⟩

end Unchecked

end FieldRules
