import FieldRules.Proofs.Schema.Inspection

/-!
# What is said of a text

The readers of requirements, choices and groups test the causes of failure in a
fixed order.  Each structure here says for a reader which outcome every text has,
one field for each step: a text that is no rule, a rule of another kind, a list
with too few keys, undeclared keys, a requirement of a key by itself, and success.
Each failure has its class and the keys that it blames.

Choices and groups are read by one procedure that admits some kinds of lists
(`Expression.toListed`), so what is said of them is proved once
(`Expression.diagnosesList`).  The reader of requirements may be refused for an
overlong literal, and `Requires.diagnoses_of_read` says what it gives otherwise.
-/

set_option autoImplicit false

namespace FieldRules

/-! ## What an outcome says -/

/-- An outcome is a failure of a class that blames some keys. -/
def Outcome.FailsWith {α : Type} (outcome : Outcome α) (code : FailureCode) (keys : List String) :
    Prop :=
  ∃ failure, outcome.result = .error failure ∧ failure.code = code ∧ failure.keys = keys

/-- The class of what is wrong with a text that was not recognised as a rule. -/
def Expression.faultCode? : Expression → Option FailureCode
  | .malformedRequires | .malformedKeys _ _ => some .malformed
  | .unknownKeyword => some .unknownKeyword
  | .requires _ _ | .keys _ _ => none

/-- A list has fewer keys than its kind needs, two for a choice and one for a group.  Repeated keys
count. -/
def ListKind.IsShort : ListKind → List String → Prop
  | .onlyOne, keys => keys.length < 2
  | .group, keys => keys.length < 1

/-- An outcome holds the text as it was given and the kind that the text announces, and it is a
failure that blames no key if the text is no rule. -/
structure Recognises {α : Type} (text : String) (outcome : Outcome α) : Prop where
  specification : outcome.specification = text
  kind : outcome.kind = (Expression.ofText text).kind
  invalid : ∀ code, (Expression.ofText text).faultCode? = some code → outcome.FailsWith code []

/-- The outcome of reading a text as a requirement. -/
structure DiagnosesRequires (schema : Schema) (text : String) (outcome : Outcome Requires) : Prop
    extends Recognises text outcome where
  /-- A list of keys is of another kind. -/
  wrongKind : ∀ kind listed, Expression.ofText text = .keys kind listed →
    outcome.FailsWith .wrongKind []
  /-- Undeclared keys are blamed, each once, the one of the prerequisite first. -/
  missing : ∀ prerequisite dependant, Expression.ofText text = .requires prerequisite dependant →
    schema.declares prerequisite.key = false ∨ schema.declares dependant.key = false →
    ∃ keys, Schema.ListsOnce [prerequisite.key, dependant.key] keys
      (fun key => schema.declares key = false) ∧ outcome.FailsWith .missingProperty keys
  /-- A declared key that is on both sides is blamed. -/
  selfReference : ∀ prerequisite dependant,
    Expression.ofText text = .requires prerequisite dependant →
    schema.declares prerequisite.key = true → prerequisite.key = dependant.key →
    outcome.FailsWith .selfReference [prerequisite.key]
  /-- Two different declared keys make up a requirement, each literal typed by its own property. -/
  success : ∀ prerequisite dependant, Expression.ofText text = .requires prerequisite dependant →
    schema.Relates prerequisite dependant → ∃ first second,
      (Unchecked.coerce (schema.typeOf prerequisite.key) prerequisite.literal).result = .ok first ∧
      (Unchecked.coerce (schema.typeOf dependant.key) dependant.literal).result = .ok second ∧
      outcome.result = .ok ⟨prerequisite.key, first, dependant.key, second⟩

/-- The outcome of reading a text as a list of keys of an admitted kind, from which a rule is
made. -/
structure DiagnosesList {α : Type} (schema : Schema) (text : String) (admitted : List ListKind)
    (make : List String → α) (outcome : Outcome α) : Prop extends Recognises text outcome where
  /-- A rule that is no list of an admitted kind is of another kind. -/
  wrongKind : (Expression.ofText text).faultCode? = none →
    (∀ kind listed, Expression.ofText text = .keys kind listed → kind ∉ admitted) →
    outcome.FailsWith .wrongKind []
  /-- Too few keys are all blamed, as they are listed. -/
  tooFew : ∀ kind ∈ admitted, ∀ listed, Expression.ofText text = .keys kind listed →
    kind.IsShort listed → outcome.FailsWith .tooFewKeys listed
  /-- Undeclared keys are blamed, each once and in the order of their first appearance. -/
  missing : ∀ kind ∈ admitted, ∀ listed, Expression.ofText text = .keys kind listed →
    ¬ kind.IsShort listed → (∃ key ∈ listed, schema.declares key = false) →
    ∃ keys, Schema.ListsOnce listed keys (fun key => schema.declares key = false) ∧
      outcome.FailsWith .missingProperty keys
  /-- Enough declared keys make up a rule, as they are listed. -/
  success : ∀ kind ∈ admitted, ∀ listed, Expression.ofText text = .keys kind listed →
    ¬ kind.IsShort listed → (∀ key ∈ listed, schema.declares key = true) →
    outcome.result = .ok (make listed)

/-! ## Refused expressions -/

theorem ListKind.isShort_iff {kind : ListKind} {keys : List String} :
    kind.IsShort keys ↔ keys.length < kind.minimum := by
  cases kind <;> rfl

namespace Expression

variable {α : Type} {schema : Schema} {text : String} {expression : Expression}

/-- The refusal of a text that is no rule has the class of its fault. -/
theorem failsWith_refusal {code : FailureCode} (fault : expression.faultCode? = some code)
    (expected kind : Kind) :
    Outcome.FailsWith (α := α) ⟨text, kind, .error (expression.refusal expected)⟩ code [] := by
  refine ⟨_, rfl, ?_⟩
  cases expression with
  | requires prerequisite dependant => exact absurd fault (by simp [faultCode?])
  | keys kind listed => exact absurd fault (by simp [faultCode?])
  | malformedRequires => exact ⟨Option.some.inj fault, rfl⟩
  | malformedKeys kind cause => exact ⟨Option.some.inj fault, rfl⟩
  | unknownKeyword => exact ⟨Option.some.inj fault, rfl⟩

/-! ## Lists of keys -/

/-- Resolve an expression as a list of keys of an admitted kind. -/
def toListed (schema : Schema) (text : String) (admitted : List ListKind) (expected : Kind)
    (make : List String → α) : Expression → Outcome α
  | .keys kind listed =>
    if kind ∈ admitted then ⟨text, kind.toKind, (resolveKeys schema kind listed).map make⟩
    else ⟨text, kind.toKind, .error (.wrongKind expected kind.toKind)⟩
  | other => ⟨text, other.kind, .error (other.refusal expected)⟩

theorem toOnlyOne_eq : expression.toOnlyOne schema text =
    expression.toListed schema text [.onlyOne] .onlyOne .mk := by
  cases expression with
  | keys kind listed => cases kind <;> rfl
  | _ => rfl

theorem toGroup_eq (name : String) : expression.toGroup schema name text =
    expression.toListed schema text [.onlyOne, .group] .group (.mk name) := by
  cases expression with
  | keys kind listed => cases kind <;> rfl
  | _ => rfl

theorem recognises_toListed (schema : Schema) (text : String) (admitted : List ListKind)
    (expected : Kind) (make : List String → α) :
    Recognises text ((ofText text).toListed schema text admitted expected make) := by
  cases recognised : ofText text with
  | keys kind listed =>
    have announced : kind.toKind = (ofText text).kind := by rw [recognised]; rfl
    have rule : ∀ code, (ofText text).faultCode? ≠ some code := by simp [recognised, faultCode?]
    rw [toListed]
    split
    · exact ⟨rfl, announced, fun code fault => absurd fault (rule code)⟩
    · exact ⟨rfl, announced, fun code fault => absurd fault (rule code)⟩
  | _ =>
    refine ⟨rfl, by rw [recognised]; rfl, fun code fault => ?_⟩
    rw [recognised] at fault
    exact failsWith_refusal fault expected _

/-- A rule that is no list of an admitted kind is refused for its kind. -/
theorem failsWith_wrongKind (rule : expression.faultCode? = none) (admitted : List ListKind)
    (other : ∀ kind listed, expression = .keys kind listed → kind ∉ admitted) (expected : Kind)
    (make : List String → α) :
    (expression.toListed schema text admitted expected make).FailsWith .wrongKind [] := by
  cases expression with
  | requires prerequisite dependant => exact ⟨_, rfl, rfl, rfl⟩
  | keys kind listed =>
    rw [toListed, if_neg (other kind listed rfl)]
    exact ⟨_, rfl, rfl, rfl⟩
  | malformedRequires => exact absurd rule (by simp [faultCode?])
  | malformedKeys kind cause => exact absurd rule (by simp [faultCode?])
  | unknownKeyword => exact absurd rule (by simp [faultCode?])

theorem resolveKeys_of_short {kind : ListKind} {listed : List String} (short : kind.IsShort listed) :
    resolveKeys schema kind listed = .error (.tooFewKeys kind listed) :=
  if_pos (ListKind.isShort_iff.mp short)

theorem resolveKeys_of_missing {kind : ListKind} {listed : List String}
    (enough : ¬ kind.IsShort listed) (missing : ∃ key ∈ listed, schema.declares key = false) :
    resolveKeys schema kind listed = .error (.missingProperties (schema.undeclared listed)) := by
  have nonempty : schema.undeclared listed ≠ [] := by
    obtain ⟨key, member, undeclared⟩ := missing
    exact List.ne_nil_of_mem (Schema.mem_undeclared.mpr ⟨member, undeclared⟩)
  rw [ListKind.isShort_iff] at enough
  simp [resolveKeys, enough, nonempty]

theorem resolveKeys_of_declared {kind : ListKind} {listed : List String}
    (enough : ¬ kind.IsShort listed) (declared : ∀ key ∈ listed, schema.declares key = true) :
    resolveKeys schema kind listed = .ok listed := by
  rw [ListKind.isShort_iff, Nat.not_lt] at enough
  exact resolveKeys_eq_ok_iff.mpr ⟨rfl, enough, declared⟩

/-- **What reading a list of an admitted kind says of every text.** -/
theorem diagnosesList (schema : Schema) (text : String) (admitted : List ListKind)
    (expected : Kind) (make : List String → α) : DiagnosesList schema text admitted make
      ((ofText text).toListed schema text admitted expected make) where
  toRecognises := recognises_toListed schema text admitted expected make
  wrongKind rule other := failsWith_wrongKind rule admitted other expected make
  tooFew kind isAdmitted listed recognised short := by
    rw [recognised, toListed, if_pos isAdmitted, resolveKeys_of_short short]
    exact ⟨_, rfl, rfl, rfl⟩
  missing kind isAdmitted listed recognised enough missing := by
    refine ⟨_, schema.listsOnce_undeclared listed, ?_⟩
    rw [recognised, toListed, if_pos isAdmitted, resolveKeys_of_missing enough missing]
    exact ⟨_, rfl, rfl, rfl⟩
  success kind isAdmitted listed recognised enough declared := by
    rw [recognised, toListed, if_pos isAdmitted, resolveKeys_of_declared enough declared]
    rfl

end Expression

/-! ## Requirements -/

namespace Requires

variable {schema : Schema} {text : String} {outcome : Outcome Requires}

theorem recognises_of_read (read : Requires.read schema text = .ok outcome) :
    Recognises text outcome := by
  obtain ⟨specification, kind⟩ := labels_of_read read
  refine ⟨specification, kind, fun code fault => ?_⟩
  unfold Requires.read at read
  cases recognised : Expression.ofText text with
  | requires prerequisite dependant => exact absurd fault (by simp [recognised, Expression.faultCode?])
  | _ =>
    rw [recognised] at fault read
    obtain rfl := Except.ok.inj read
    exact Expression.failsWith_refusal fault .requires _

/-- **What reading a requirement says of every text on which it returns.** -/
theorem diagnoses_of_read (read : Requires.read schema text = .ok outcome) :
    DiagnosesRequires schema text outcome where
  toRecognises := recognises_of_read read
  wrongKind kind listed recognised := by
    rw [Requires.read, recognised] at read
    obtain rfl := Except.ok.inj read
    exact ⟨_, rfl, rfl, rfl⟩
  missing prerequisite dependant recognised missing := by
    refine ⟨_, schema.listsOnce_undeclared _, ?_⟩
    rw [Requires.read, recognised, Expression.toRequires,
      Expression.resolveSides_of_missing missing] at read
    obtain rfl := Except.ok.inj read
    exact ⟨_, rfl, rfl, rfl⟩
  selfReference prerequisite dependant recognised declared same := by
    rw [Requires.read, recognised, Expression.toRequires,
      Expression.resolveSides_of_same declared same] at read
    obtain rfl := Except.ok.inj read
    exact ⟨_, rfl, rfl, rfl⟩
  success prerequisite dependant recognised relates := by
    rcases read_sides recognised relates with ⟨first, second, left, right, whole⟩ |
      ⟨side, fault, -, -, refused⟩
    · obtain rfl := Except.ok.inj (whole.symm.trans read)
      exact ⟨first, second, Unchecked.result_coerce_of_readSide left,
        Unchecked.result_coerce_of_readSide right, rfl⟩
    · exact absurd (refused.symm.trans read) (by simp)

end Requires

/-! ## Reading a text -/

namespace Unchecked

/-- What the three readers say of a text, the reader of groups under a name. -/
structure Diagnosed (schema : Schema) (text name : String) : Prop where
  /-- Whatever the reader of requirements returns is the outcome of the text. -/
  requirement : ∀ outcome, (parseRequires (.schema schema) (.text text)).result = .ok outcome →
    DiagnosesRequires schema text outcome
  /-- It returns on every text without an overlong literal, and on no other. -/
  requirementReturns : (∃ outcome,
    (parseRequires (.schema schema) (.text text)).result = .ok outcome) ↔
      ¬ schema.HoldsOverlong text
  /-- The reader of choices returns on every text, and admits choices only. -/
  choice : ∃ outcome, (parseOnlyOne (.schema schema) (.text text)).result = .ok outcome ∧
    DiagnosesList schema text [.onlyOne] OnlyOne.mk outcome
  /-- The reader of groups returns on every text, and admits both kinds of lists. -/
  group : ∃ outcome, (parseGroup (.schema schema) (.text name) (.text text)).result = .ok outcome ∧
    DiagnosesList schema text [.onlyOne, .group] (Group.mk name) outcome

theorem exists_parseRequires_iff {schema : Schema} {text : String} :
    (∃ outcome, (parseRequires (.schema schema) (.text text)).result = .ok outcome) ↔
      ¬ schema.HoldsOverlong text := by
  simp only [result_parseRequires_eq_ok_iff, ← Requires.exists_error_iff]
  cases Requires.read schema text <;> simp

/-- **Every text has one diagnosis by each reader.** -/
theorem parse_diagnosed (schema : Schema) (text name : String) : Diagnosed schema text name where
  requirement outcome returned :=
    Requires.diagnoses_of_read (result_parseRequires_eq_ok_iff.mp returned)
  requirementReturns := exists_parseRequires_iff
  choice := by
    refine ⟨OnlyOne.read schema text, rfl, ?_⟩
    rw [OnlyOne.read, Expression.toOnlyOne_eq]
    exact Expression.diagnosesList schema text _ _ _
  group := by
    refine ⟨Group.read schema name text, rfl, ?_⟩
    rw [Group.read, Expression.toGroup_eq]
    exact Expression.diagnosesList schema text _ _ _

/-- A list that is too short is refused for that, though its key is not declared either. -/
example : (OnlyOne.read ⟨.ofList [], []⟩ " OnlyOne(x); ").failure? =
    some (.tooFewKeys .onlyOne ["x"]) := by
  decide +kernel

end Unchecked

end FieldRules
