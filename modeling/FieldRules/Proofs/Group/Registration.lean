import FieldRules.Proofs.Schema.Declared
import FieldRules.Group.Registration

/-!
# Registered groups

The groups that are registered share no key.  The ownership records every key of
the groups registered so far, and a group is registered only if it lists no
owned key.  A group that is refused leaves the ownership as it was, so failures
in between do not matter.

Every registered group lists at least one key, and only declared ones.
-/

set_option autoImplicit false

namespace FieldRules

/-! ## One group -/

/-- Two lists of keys without a common key. -/
def KeyDisjoint {γ : Type} [Keyed γ] (left right : γ) : Prop :=
  ∀ key ∈ Keyed.keys left, key ∉ Keyed.keys right

instance {γ : Type} [Keyed γ] (left right : γ) : Decidable (KeyDisjoint left right) :=
  inferInstanceAs (Decidable (∀ key ∈ Keyed.keys left, key ∉ Keyed.keys right))

theorem KeyDisjoint.symm {γ : Type} [Keyed γ] {left right : γ} (disjoint : KeyDisjoint left right) :
    KeyDisjoint right left :=
  fun key inRight inLeft => disjoint key inLeft inRight

/-- The keys that are owned. -/
def Ownership.keys (owned : Ownership) : List String := owned.map Prod.fst

theorem Ownership.lookup_eq_none_iff (owned : Ownership) (key : String) :
    owned.lookup key = none ↔ key ∉ owned.keys := by
  induction owned with
  | nil => simp [keys]
  | cons entry owned ih =>
    obtain ⟨other, owner⟩ := entry
    by_cases same : key = other
    · simp [keys, same]
    · have different : (key == other) = false := beq_eq_false_iff_ne.mpr same
      rw [List.lookup_cons, different]
      simpa [keys, same] using ih

theorem Ownership.taken_eq_nil_iff (owned : Ownership) (keys : List String) :
    owned.taken keys = [] ↔ ∀ key ∈ keys, key ∉ owned.keys := by
  unfold taken
  rw [List.filterMap_eq_nil_iff]
  constructor
  · intro free key member
    have none := free key (Schema.mem_firstOccurrences.mpr member)
    exact (owned.lookup_eq_none_iff key).mp (Option.map_eq_none_iff.mp none)
  · intro free key member
    have listed := Schema.mem_firstOccurrences.mp member
    rw [(owned.lookup_eq_none_iff key).mpr (free key listed)]
    rfl

theorem Ownership.keys_claim (owned : Ownership) (group : Group) :
    (owned.claim group).keys = owned.keys ++ group.keys := by
  simp [claim, keys, Function.comp_def]

/-- A list of keys is accepted when it is long enough and all its keys are declared. -/
theorem Expression.resolveKeys_eq_ok_iff {schema : Schema} {kind : ListKind}
    {keys resolved : List String} :
    resolveKeys schema kind keys = .ok resolved ↔
      resolved = keys ∧ kind.minimum ≤ keys.length ∧
        ∀ key ∈ keys, schema.declares key = true := by
  unfold resolveKeys
  by_cases few : keys.length < kind.minimum
  · have short : ¬ kind.minimum ≤ keys.length := Nat.not_le.mpr few
    simp [few, short]
  · rw [if_neg few, ← Schema.undeclared_eq_nil_iff]
    by_cases none : schema.undeclared keys = []
    · simp [none, Nat.not_lt.mp few, eq_comm]
    · simp [none]

/-- A rule made of the keys of a list holds all of them, if they are accepted. -/
theorem Expression.eq_of_map_resolveKeys {α : Type} {schema : Schema} {kind : ListKind}
    {listed : List String} {wrap : List String → α} {rule : α}
    (resolved : (resolveKeys schema kind listed).map wrap = .ok rule) :
    rule = wrap listed ∧ kind.minimum ≤ listed.length ∧
      ∀ key ∈ listed, schema.declares key = true := by
  cases found : resolveKeys schema kind listed with
  | error failure =>
    rw [found] at resolved
    exact absurd resolved (by simp [Except.map])
  | ok keys =>
    rw [found] at resolved
    obtain ⟨rfl, enough, declared⟩ := resolveKeys_eq_ok_iff.mp found
    exact ⟨(Except.ok.inj resolved).symm, enough, declared⟩

section Lists

variable {schema : Schema} {text : String} {keys : List String}

/-- A choice of enough declared keys is read. -/
theorem OnlyOne.read_of_declared (recognised : Expression.ofText text = .keys .onlyOne keys)
    (enough : ListKind.onlyOne.minimum ≤ keys.length)
    (declared : ∀ key ∈ keys, schema.declares key = true) :
    OnlyOne.read schema text = ⟨text, .onlyOne, .ok ⟨keys⟩⟩ := by
  rw [OnlyOne.read, recognised, Expression.toOnlyOne,
    Expression.resolveKeys_eq_ok_iff.mpr ⟨rfl, enough, declared⟩]
  rfl

/-- A list of enough declared keys is read as a group under any name. -/
theorem Group.read_of_declared {kind : ListKind}
    (recognised : Expression.ofText text = .keys kind keys) (enough : kind.minimum ≤ keys.length)
    (declared : ∀ key ∈ keys, schema.declares key = true) (name : String) :
    Group.read schema name text = ⟨text, kind.toKind, .ok ⟨name, keys⟩⟩ := by
  rw [Group.read, recognised, Expression.toGroup,
    Expression.resolveKeys_eq_ok_iff.mpr ⟨rfl, enough, declared⟩]
  rfl

end Lists

namespace Schema

variable {schema : Schema}

/-- A group that is read has the name it was read under and the keys of a recognised list. -/
theorem exists_list_of_group {name text : String} {group : Group}
    (read : (Group.read schema name text).result = .ok group) :
    group.name = name ∧ ∃ kind : ListKind, Expression.ofText text = .keys kind group.keys ∧
      kind.minimum ≤ group.keys.length ∧ ∀ key ∈ group.keys, schema.declares key = true := by
  unfold Group.read Expression.toGroup at read
  split at read
  · next listKind listed recognised =>
    obtain ⟨rfl, enough, declared⟩ := Expression.eq_of_map_resolveKeys read
    exact ⟨rfl, listKind, recognised, enough, declared⟩
  · exact absurd read (by simp)

/-- A list that is long enough is not empty. -/
theorem ne_nil_of_minimum {kind : ListKind} {keys : List String}
    (enough : kind.minimum ≤ keys.length) : keys ≠ [] := by
  rintro rfl
  cases kind <;> exact absurd enough (by decide)

/-- A group that is read lists a key and only declared keys. -/
theorem keys_of_read {name text : String} {group : Group}
    (read : (Group.read schema name text).result = .ok group) :
    group.keys ≠ [] ∧ ∀ key ∈ group.keys, schema.declares key = true := by
  obtain ⟨-, kind, -, enough, declared⟩ := exists_list_of_group read
  exact ⟨ne_nil_of_minimum enough, declared⟩

/-- A group is registered when it is read and lists no owned key. -/
theorem settle_eq_ok_iff {owned : Ownership} {name : String} {outcome : Outcome Group}
    {group : Group} :
    (settle owned name outcome).result = .ok group ↔
      outcome.result = .ok group ∧ ∀ key ∈ group.keys, key ∉ owned.keys := by
  unfold settle
  cases result : outcome.result with
  | error failure => simp [result]
  | ok read =>
    by_cases free : owned.taken read.keys = []
    · simp only [free, List.isEmpty_nil, if_true, result, Except.ok.injEq]
      refine ⟨?_, fun same => same.1⟩
      rintro rfl
      exact ⟨rfl, (owned.taken_eq_nil_iff _).mp free⟩
    · have taken : (owned.taken read.keys).isEmpty = false := by simpa using free
      simp only [taken, if_false, Bool.false_eq_true, reduceCtorEq, false_iff, not_and,
        Except.ok.injEq]
      rintro rfl unowned
      exact free ((owned.taken_eq_nil_iff _).mpr unowned)

/-! ## All groups -/

/-- Groups that can be laid out: each lists a key and only declared keys, and no two share a
key. -/
structure AreRegistered (schema : Schema) (groups : List Group) : Prop where
  nonempty : ∀ group ∈ groups, group.keys ≠ []
  declared : ∀ group ∈ groups, ∀ key ∈ group.keys, schema.declares key = true
  disjoint : groups.Pairwise KeyDisjoint

section Steps

variable {owned : Ownership} {name text : String} (rest : List (String × String))

theorem successes_cons_of_registered {group : Group}
    (registered : (settle owned name (Group.read schema name text)).result = .ok group) :
    Outcome.successes (schema.registerFrom owned ((name, text) :: rest)) =
      group :: Outcome.successes (schema.registerFrom (owned.claim group) rest) := by
  simp [registerFrom, Outcome.successes, Outcome.value?, ownedAfter, registered, Except.toOption]

/-- After a failure the ownership is as it was. -/
theorem successes_cons_of_failed {failure : Failure}
    (failed : (settle owned name (Group.read schema name text)).result = .error failure) :
    Outcome.successes (schema.registerFrom owned ((name, text) :: rest)) =
      Outcome.successes (schema.registerFrom owned rest) := by
  simp [registerFrom, Outcome.successes, Outcome.value?, ownedAfter, failed, Except.toOption]

end Steps

/-- What is registered from some ownership on lists no owned key. -/
theorem registerFrom_spec (schema : Schema) (owned : Ownership)
    (specifications : List (String × String)) :
    AreRegistered schema (Outcome.successes (schema.registerFrom owned specifications)) ∧
      ∀ group ∈ Outcome.successes (schema.registerFrom owned specifications),
        ∀ key ∈ group.keys, key ∉ owned.keys := by
  induction specifications generalizing owned with
  | nil =>
    have none : Outcome.successes (schema.registerFrom owned []) = [] := rfl
    rw [none]
    exact ⟨⟨List.forall_mem_nil _, List.forall_mem_nil _, .nil⟩, List.forall_mem_nil _⟩
  | cons specification rest ih =>
    obtain ⟨name, text⟩ := specification
    cases result : (settle owned name (Group.read schema name text)).result with
    | error failure =>
      rw [successes_cons_of_failed rest result]
      exact ih owned
    | ok group =>
      obtain ⟨⟨nonempty, declared, disjoint⟩, unowned⟩ := ih (owned.claim group)
      obtain ⟨read, free⟩ := settle_eq_ok_iff.mp result
      obtain ⟨hasKey, allDeclared⟩ := keys_of_read read
      rw [successes_cons_of_registered rest result]
      have apart : ∀ other ∈ Outcome.successes (schema.registerFrom (owned.claim group) rest),
          ∀ key ∈ other.keys, key ∉ owned.keys ∧ key ∉ group.keys := by
        intro other member key listed
        have free := unowned other member key listed
        rw [Ownership.keys_claim, List.mem_append, not_or] at free
        exact free
      refine ⟨⟨?_, ?_, ?_⟩, ?_⟩
      · exact List.forall_mem_cons.mpr ⟨hasKey, nonempty⟩
      · exact List.forall_mem_cons.mpr ⟨allDeclared, declared⟩
      · refine List.pairwise_cons.mpr ⟨fun other member key inGroup inOther => ?_, disjoint⟩
        exact (apart other member key inOther).2 inGroup
      · refine List.forall_mem_cons.mpr ⟨free, fun other member key listed => ?_⟩
        exact (apart other member key listed).1

/-- **The groups that a schema registers share no key.** -/
theorem areRegistered_inspectGroups (schema : Schema) :
    AreRegistered schema (Outcome.successes schema.inspectGroups) :=
  (registerFrom_spec schema [] schema.groupTexts).1

/-- The groups that named texts are read as, where they are. -/
def readGroups (schema : Schema) (specifications : List (String × String)) : List Group :=
  specifications.filterMap fun entry => (Group.read schema entry.1 entry.2).value?

/-- Groups without a common key and without an owned key are all registered. -/
theorem successes_registerFrom {owned : Ownership} {specifications : List (String × String)}
    (disjoint : (schema.readGroups specifications).Pairwise KeyDisjoint)
    (unowned : ∀ group ∈ schema.readGroups specifications, ∀ key ∈ group.keys, key ∉ owned.keys) :
    Outcome.successes (schema.registerFrom owned specifications) =
      schema.readGroups specifications := by
  induction specifications generalizing owned with
  | nil => rfl
  | cons specification rest ih =>
    obtain ⟨name, text⟩ := specification
    cases result : (Group.read schema name text).result with
    | error failure =>
      have failed : (settle owned name (Group.read schema name text)).result = .error failure := by
        simp [settle, result]
      have skipped : schema.readGroups ((name, text) :: rest) = schema.readGroups rest := by
        simp [readGroups, Outcome.value?, result, Except.toOption]
      rw [skipped] at disjoint unowned ⊢
      rw [successes_cons_of_failed rest failed]
      exact ih disjoint unowned
    | ok group =>
      have kept : schema.readGroups ((name, text) :: rest) = group :: schema.readGroups rest := by
        simp [readGroups, Outcome.value?, result, Except.toOption]
      rw [kept] at disjoint unowned ⊢
      obtain ⟨apart, behind⟩ := List.pairwise_cons.mp disjoint
      obtain ⟨free, others⟩ := List.forall_mem_cons.mp unowned
      rw [successes_cons_of_registered rest (settle_eq_ok_iff.mpr ⟨result, free⟩)]
      refine congrArg (group :: ·) (ih behind fun other member key listed => ?_)
      rw [Ownership.keys_claim, List.mem_append, not_or]
      exact ⟨others other member key listed, (apart other member).symm key listed⟩

/-- The groups of a schema that share no key are all registered. -/
theorem successes_inspectGroups
    (disjoint : (schema.readGroups schema.groupTexts).Pairwise KeyDisjoint) :
    Outcome.successes schema.inspectGroups = schema.readGroups schema.groupTexts :=
  successes_registerFrom disjoint fun _ _ _ _ => List.not_mem_nil

/-! ## What depends on the properties only -/

variable {other : Schema}

theorem group_read_congr (same : other.properties = schema.properties) (name text : String) :
    Group.read other name text = Group.read schema name text := by
  obtain ⟨properties, extensions⟩ := schema
  obtain ⟨_, otherExtensions⟩ := other
  obtain rfl := same
  rfl

theorem registerGroups_congr (same : other.properties = schema.properties)
    (specifications : List (String × String)) :
    other.registerGroups specifications = schema.registerGroups specifications := by
  have fromAny (owned : Ownership) :
      other.registerFrom owned specifications = schema.registerFrom owned specifications := by
    induction specifications generalizing owned with
    | nil => rfl
    | cons specification rest ih => simp only [registerFrom, group_read_congr same, ih]
  exact fromAny []

end Schema

end FieldRules
