import FieldRules.Proofs.Rule.LiteralReading
import FieldRules.Rule.Extraction

/-!
# Reading requirements

What the reader of requirements does on any text.  It gives a requirement when
the text is recognised as one between two different declared keys
(`Schema.Relates`), and then each literal is read by the type of its own key.
Every other text ends in a failure (`Requires.read_cases`).

Reading is refused for an overlong literal only, and only when the keys are in
order (`Requires.exists_error_iff`).
-/

set_option autoImplicit false

namespace FieldRules

namespace Schema

/-- The declared type of a key, if it is declared with one. -/
def typeOf (schema : Schema) (key : String) : Option DataType :=
  (schema.property? key).bind (·.type)

theorem typeOf_eq_some_iff {schema : Schema} {type : DataType} {key : String} :
    schema.typeOf key = some type ↔
      ∃ property, schema.property? key = some property ∧ property.type = some type :=
  Option.bind_eq_some_iff

theorem hasType_iff {schema : Schema} {type : DataType} {key : String} :
    schema.hasType type key = true ↔
      ∃ property, schema.property? key = some property ∧ property.type = some type := by
  cases found : schema.property? key with
  | none => simp [hasType, found]
  | some property => simp [hasType, found]

/-- Two sides that a schema can relate: both keys are declared, and they differ. -/
structure Relates (schema : Schema) (prerequisite dependant : Side) : Prop where
  prerequisiteDeclared : schema.declares prerequisite.key = true
  dependantDeclared : schema.declares dependant.key = true
  different : prerequisite.key ≠ dependant.key

/-- A side whose literal is an overlong integer for the property of its key. -/
def IsOverlongSide (schema : Schema) (side : Side) (count : Nat) : Prop :=
  ∃ content, side.literal = some content ∧
    Literal.IsOverlong (schema.typeOf side.key) content.toList count

/-- A text that is recognised as a requirement between two keys that the schema can relate, one of
them with an overlong literal. -/
def HoldsOverlong (schema : Schema) (text : String) : Prop :=
  ∃ prerequisite dependant, Expression.ofText text = .requires prerequisite dependant ∧
    schema.Relates prerequisite dependant ∧
    ∃ count, schema.IsOverlongSide prerequisite count ∨ schema.IsOverlongSide dependant count

/-- What the literal of a side is read as. -/
def readSide (schema : Schema) (side : Side) : Except DigitFault (Option Literal) :=
  Literal.read (schema.typeOf side.key) side.literal

variable {schema : Schema}

theorem readSide_eq_error_iff {side : Side} {fault : DigitFault} :
    schema.readSide side = .error fault ↔
      ∃ count, schema.IsOverlongSide side count ∧ fault = .tooLongToRead count := by
  unfold readSide IsOverlongSide
  cases literal : side.literal with
  | none => simp [Literal.read]
  | some content =>
    have opened : Literal.read (schema.typeOf side.key) (some content) =
        Literal.readChars (schema.typeOf side.key) content.toList := rfl
    rw [opened, Literal.readChars_eq_error_iff]
    simp

end Schema

namespace Expression

variable {schema : Schema} {prerequisite dependant : Side}

theorem undeclared_pair_eq_nil_iff :
    schema.undeclared [prerequisite.key, dependant.key] = [] ↔
      schema.declares prerequisite.key = true ∧ schema.declares dependant.key = true := by
  rw [Schema.undeclared_eq_nil_iff]
  simp

theorem resolveSides_of_relates (relates : schema.Relates prerequisite dependant) :
    resolveSides schema prerequisite dependant =
      (schema.readSide prerequisite).bind fun first =>
        (schema.readSide dependant).map fun second =>
          .ok ⟨prerequisite.key, first, dependant.key, second⟩ := by
  have declared : schema.undeclared [prerequisite.key, dependant.key] = [] :=
    undeclared_pair_eq_nil_iff.mpr ⟨relates.prerequisiteDeclared, relates.dependantDeclared⟩
  have different : (prerequisite.key == dependant.key) = false :=
    beq_eq_false_iff_ne.mpr relates.different
  unfold Schema.readSide Schema.typeOf
  simp only [resolveSides, declared, different]
  cases Literal.read ((schema.property? prerequisite.key).bind (·.type)) prerequisite.literal with
  | error fault => rfl
  | ok first =>
    cases Literal.read ((schema.property? dependant.key).bind (·.type)) dependant.literal with
    | error fault => rfl
    | ok second => rfl

/-- Undeclared keys are a failure, whether the two keys differ or not. -/
theorem resolveSides_of_missing (missing : schema.declares prerequisite.key = false ∨
    schema.declares dependant.key = false) : resolveSides schema prerequisite dependant =
      .ok (.error (.missingProperties (schema.undeclared [prerequisite.key, dependant.key]))) := by
  have nonempty : schema.undeclared [prerequisite.key, dependant.key] ≠ [] := by
    rw [Ne, undeclared_pair_eq_nil_iff]
    rintro ⟨first, second⟩
    simp [first, second] at missing
  simp [resolveSides, nonempty]

/-- A declared key on both sides is a failure. -/
theorem resolveSides_of_same (declared : schema.declares prerequisite.key = true)
    (same : prerequisite.key = dependant.key) : resolveSides schema prerequisite dependant =
      .ok (.error (.selfReference prerequisite.key)) := by
  have none : schema.undeclared [prerequisite.key, dependant.key] = [] :=
    undeclared_pair_eq_nil_iff.mpr ⟨declared, same ▸ declared⟩
  have equal : (prerequisite.key == dependant.key) = true := beq_iff_eq.mpr same
  simp only [resolveSides, none, equal]
  rfl

theorem exists_failure_of_not_relates (unrelated : ¬ schema.Relates prerequisite dependant) :
    ∃ failure, resolveSides schema prerequisite dependant = .ok (.error failure) := by
  by_cases missing : schema.declares prerequisite.key = false ∨
      schema.declares dependant.key = false
  · exact ⟨_, resolveSides_of_missing missing⟩
  · simp only [not_or, Bool.not_eq_false] at missing
    by_cases same : prerequisite.key = dependant.key
    · exact ⟨_, resolveSides_of_same missing.1 same⟩
    · exact absurd ⟨missing.1, missing.2, same⟩ unrelated

end Expression

namespace Requires

variable {schema : Schema} {text : String}

/-- The outcome of a text that is recognised as a requirement between keys in order. -/
theorem read_of_relates {prerequisite dependant : Side}
    (recognised : Expression.ofText text = .requires prerequisite dependant)
    (relates : schema.Relates prerequisite dependant) :
    Requires.read schema text = (schema.readSide prerequisite).bind fun first =>
      (schema.readSide dependant).map fun second =>
        ⟨text, .requires, .ok ⟨prerequisite.key, first, dependant.key, second⟩⟩ := by
  rw [Requires.read, recognised, Expression.toRequires, Expression.resolveSides_of_relates relates]
  cases schema.readSide prerequisite with
  | error fault => rfl
  | ok first =>
    cases schema.readSide dependant with
    | error fault => rfl
    | ok second => rfl

/-- Between keys in order, the literals of both sides are read, or one of them is refused. -/
theorem read_sides {prerequisite dependant : Side}
    (recognised : Expression.ofText text = .requires prerequisite dependant)
    (relates : schema.Relates prerequisite dependant) :
    (∃ first second, schema.readSide prerequisite = .ok first ∧
      schema.readSide dependant = .ok second ∧
      Requires.read schema text =
        .ok ⟨text, .requires, .ok ⟨prerequisite.key, first, dependant.key, second⟩⟩) ∨
    ∃ side fault, (side = prerequisite ∨ side = dependant) ∧
      schema.readSide side = .error fault ∧ Requires.read schema text = .error fault := by
  rw [read_of_relates recognised relates]
  cases left : schema.readSide prerequisite with
  | error fault => exact .inr ⟨prerequisite, fault, .inl rfl, left, rfl⟩
  | ok first =>
    cases right : schema.readSide dependant with
    | error fault => exact .inr ⟨dependant, fault, .inr rfl, right, rfl⟩
    | ok second => exact .inl ⟨first, second, rfl, rfl, rfl⟩

/-- A text states a requirement between keys in order, or it fails. -/
theorem read_cases (schema : Schema) (text : String) :
    (∃ prerequisite dependant, Expression.ofText text = .requires prerequisite dependant ∧
      schema.Relates prerequisite dependant) ∨
    ∃ failure, Requires.read schema text =
      .ok ⟨text, (Expression.ofText text).kind, .error failure⟩ := by
  unfold Requires.read
  cases recognised : Expression.ofText text with
  | requires prerequisite dependant =>
    by_cases relates : schema.Relates prerequisite dependant
    · exact .inl ⟨prerequisite, dependant, rfl, relates⟩
    · obtain ⟨failure, failed⟩ := Expression.exists_failure_of_not_relates relates
      refine .inr ⟨failure, ?_⟩
      rw [Expression.toRequires, failed]
      rfl
  | keys kind listed => exact .inr ⟨_, rfl⟩
  | malformedRequires => exact .inr ⟨_, rfl⟩
  | malformedKeys kind fault => exact .inr ⟨_, rfl⟩
  | unknownKeyword => exact .inr ⟨_, rfl⟩

/-- A refusal is that of a side between keys in order. -/
theorem exists_side_of_read_eq_error {fault : DigitFault}
    (refused : Requires.read schema text = .error fault) :
    ∃ prerequisite dependant side, Expression.ofText text = .requires prerequisite dependant ∧
      schema.Relates prerequisite dependant ∧ (side = prerequisite ∨ side = dependant) ∧
      schema.readSide side = .error fault := by
  rcases read_cases schema text with ⟨prerequisite, dependant, recognised, relates⟩ |
    ⟨failure, failed⟩
  · rcases read_sides recognised relates with ⟨first, second, -, -, read⟩ |
      ⟨side, cause, isSide, here, read⟩
    · exact absurd (read.symm.trans refused) (by simp)
    · obtain rfl := Except.error.inj (read.symm.trans refused)
      exact ⟨prerequisite, dependant, side, recognised, relates, isSide, here⟩
  · exact absurd (failed.symm.trans refused) (by simp)

/-- **Reading is refused exactly when a side of a requirement between keys in order has an overlong
literal.** -/
theorem exists_error_iff :
    (∃ fault, Requires.read schema text = .error fault) ↔ schema.HoldsOverlong text := by
  constructor
  · rintro ⟨fault, refused⟩
    obtain ⟨prerequisite, dependant, side, recognised, relates, isSide, here⟩ :=
      exists_side_of_read_eq_error refused
    obtain ⟨count, overlong, -⟩ := Schema.readSide_eq_error_iff.mp here
    refine ⟨prerequisite, dependant, recognised, relates, count, ?_⟩
    rcases isSide with rfl | rfl
    · exact .inl overlong
    · exact .inr overlong
  · rintro ⟨prerequisite, dependant, recognised, relates, count, overlong⟩
    rcases read_sides recognised relates with ⟨first, second, left, right, -⟩ |
      ⟨side, cause, -, -, refused⟩
    · -- Both literals were read, but one of them is overlong.
      rcases overlong with here | there
      · have refused := Schema.readSide_eq_error_iff.mpr ⟨count, here, rfl⟩
        exact absurd (left.symm.trans refused) (by simp)
      · have refused := Schema.readSide_eq_error_iff.mpr ⟨count, there, rfl⟩
        exact absurd (right.symm.trans refused) (by simp)
    · exact ⟨cause, refused⟩

/-- A refusal tells a count of digits beyond the limit. -/
theorem tooLong_of_read_eq_error {fault : DigitFault}
    (refused : Requires.read schema text = .error fault) :
    ∃ count, fault = .tooLongToRead count ∧ digitLimit < count := by
  obtain ⟨-, -, side, -, -, -, here⟩ := exists_side_of_read_eq_error refused
  obtain ⟨count, ⟨content, -, -, form, -, -, long⟩, same⟩ :=
    Schema.readSide_eq_error_iff.mp here
  exact ⟨count, same, long⟩

/-- What a requirement was read from. -/
theorem exists_sides_of_read {outcome : Outcome Requires} {rule : Requires}
    (read : Requires.read schema text = .ok outcome) (success : outcome.result = .ok rule) :
    ∃ prerequisite dependant, Expression.ofText text = .requires prerequisite dependant ∧
      schema.Relates prerequisite dependant ∧
      rule.prerequisiteKey = prerequisite.key ∧ rule.dependantKey = dependant.key ∧
      schema.readSide prerequisite = .ok rule.prerequisiteValue ∧
      schema.readSide dependant = .ok rule.dependantValue := by
  rcases read_cases schema text with ⟨prerequisite, dependant, recognised, relates⟩ |
    ⟨failure, failed⟩
  · rcases read_sides recognised relates with ⟨first, second, left, right, whole⟩ |
      ⟨side, fault, -, -, refused⟩
    · obtain rfl := Except.ok.inj (whole.symm.trans read)
      obtain rfl := Except.ok.inj success
      exact ⟨prerequisite, dependant, recognised, relates, rfl, rfl, left, right⟩
    · exact absurd (refused.symm.trans read) (by simp)
  · obtain rfl := Except.ok.inj (failed.symm.trans read)
    exact absurd success (by simp)

end Requires

end FieldRules
