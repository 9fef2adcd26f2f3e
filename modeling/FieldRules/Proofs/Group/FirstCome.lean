import FieldRules.Proofs.Group.Registration
import FieldRules.Unchecked

/-!
# First come, all or nothing

What becomes of a named group is decided by its own text and by the groups that
were registered before it.  It is registered when it is read and shares no key
with them; if it does share keys, it is refused, and the refusal names those keys
with their owners (`IsSettled`).

The invariant of a run is that the ownership records the groups registered so
far (`Ownership.Records`).  A group that is refused leaves the ownership as it
was, so later outcomes are the same without it (`exists_outcome_at`).
-/

set_option autoImplicit false

namespace FieldRules

/-! ## What the ownership records -/

namespace Ownership

/-- The ownership records some groups: it holds every key of theirs, and nothing but their keys,
each with the name of a group that lists it. -/
structure Records (owned : Ownership) (groups : List Group) : Prop where
  complete : ∀ group ∈ groups, ∀ key ∈ group.keys, key ∈ owned.keys
  backed : ∀ entry ∈ owned, ∃ group ∈ groups, entry.1 ∈ group.keys ∧ group.name = entry.2

theorem records_nil : Records [] [] := ⟨List.forall_mem_nil _, List.forall_mem_nil _⟩

variable {owned : Ownership} {groups : List Group}

theorem Records.mem_keys_iff (records : owned.Records groups) (key : String) :
    key ∈ owned.keys ↔ ∃ group ∈ groups, key ∈ group.keys := by
  constructor
  · intro member
    obtain ⟨entry, inOwned, rfl⟩ := List.mem_map.mp member
    obtain ⟨group, inGroups, listed, -⟩ := records.backed entry inOwned
    exact ⟨group, inGroups, listed⟩
  · rintro ⟨group, inGroups, listed⟩
    exact records.complete group inGroups key listed

theorem Records.claim (records : owned.Records groups) (group : Group) :
    (owned.claim group).Records (groups ++ [group]) where
  complete other member key listed := by
    rw [keys_claim, List.mem_append]
    rcases List.mem_append.mp member with before | last
    · exact .inl (records.complete other before key listed)
    · rw [List.mem_singleton.mp last] at listed
      exact .inr listed
  backed entry member := by
    rcases List.mem_append.mp member with before | claimed
    · obtain ⟨other, inGroups, backed⟩ := records.backed entry before
      exact ⟨other, List.mem_append_left _ inGroups, backed⟩
    · obtain ⟨key, listed, rfl⟩ := List.mem_map.mp claimed
      exact ⟨group, List.mem_append_right _ List.mem_cons_self, listed, rfl⟩

/-- One outcome: a registered group is recorded, a failure changes nothing. -/
theorem Records.after (records : owned.Records groups) (outcome : Outcome Group) :
    (Schema.ownedAfter owned outcome).Records (groups ++ Outcome.successes [outcome]) := by
  cases result : outcome.result with
  | ok group =>
    simpa [Schema.ownedAfter, Outcome.successes, Outcome.value?, Except.toOption, result]
      using records.claim group
  | error failure =>
    simpa [Schema.ownedAfter, Outcome.successes, Outcome.value?, Except.toOption, result]
      using records

/-- A run: the registered groups are recorded. -/
theorem Records.afterAll (records : owned.Records groups) (outcomes : List (Outcome Group)) :
    (outcomes.foldl Schema.ownedAfter owned).Records (groups ++ Outcome.successes outcomes) := by
  induction outcomes generalizing owned groups with
  | nil => simpa [Outcome.successes] using records
  | cons outcome outcomes ih =>
    have behind := ih (records.after outcome)
    rw [List.append_assoc] at behind
    have joined : Outcome.successes [outcome] ++ Outcome.successes outcomes =
        Outcome.successes (outcome :: outcomes) := List.filterMap_append.symm
    rw [joined] at behind
    exact behind

/-! ## The keys that are taken -/

theorem map_fst_taken (owned : Ownership) (keys : List String) :
    (owned.taken keys).map Prod.fst =
      (Schema.firstOccurrences keys).filter fun key => (owned.lookup key).isSome := by
  unfold taken
  induction Schema.firstOccurrences keys with
  | nil => rfl
  | cons key rest ih =>
    cases found : owned.lookup key with
    | none => simpa [found] using ih
    | some owner => simpa [found] using ih

theorem isSome_lookup_iff (owned : Ownership) (key : String) :
    (owned.lookup key).isSome = true ↔ key ∈ owned.keys := by
  rw [← Option.ne_none_iff_isSome, ne_eq, owned.lookup_eq_none_iff, Classical.not_not]

/-- The keys of a list that are taken are those of the recorded groups, each with its owner. -/
theorem Records.taken (records : owned.Records groups) (keys : List String) :
    Schema.ListsOnce keys ((owned.taken keys).map Prod.fst)
        (fun key => ∃ group ∈ groups, key ∈ group.keys) ∧
      ∀ entry ∈ owned.taken keys,
        ∃ group ∈ groups, entry.1 ∈ group.keys ∧ group.name = entry.2 := by
  constructor
  · have listed := Schema.listsOnce_filter keys fun key => (owned.lookup key).isSome
    rw [← map_fst_taken] at listed
    simpa only [isSome_lookup_iff, records.mem_keys_iff] using listed
  · intro entry member
    obtain ⟨key, -, found⟩ := List.mem_filterMap.mp member
    obtain ⟨owner, lookup, rfl⟩ := Option.map_eq_some_iff.mp found
    obtain ⟨before, behind, shape, -⟩ := List.lookup_eq_some_iff.mp lookup
    refine records.backed (key, owner) ?_
    rw [shape]
    exact List.mem_append_right _ List.mem_cons_self

end Ownership

/-! ## One group -/

/-- The wording of the refusal of a group: its name, and each taken key with its owner. -/
def clashMessage (name : String) (owners : List (String × String)) : String :=
  "group " ++ Text.quoted name ++ " reuses grouped properties: "
    ++ ", ".intercalate (owners.map fun entry => entry.1 ++ " -> " ++ Text.quoted entry.2)

/-- What becomes of a named group that was read, when some groups are registered already. -/
structure IsSettled (earlier : List Group) (name : String) (read outcome : Outcome Group) :
    Prop where
  /-- It is registered exactly when it was read and shares no key with an earlier group. -/
  registered : ∀ group, outcome.result = .ok group ↔
    read.result = .ok group ∧ ∀ other ∈ earlier, KeyDisjoint group other
  /-- If it is registered, its outcome is kept. -/
  kept : ∀ group, outcome.result = .ok group → outcome = read
  /-- If it shares keys, the refusal lists them once, in order, each with its owner. -/
  refused : ∀ group, read.result = .ok group → (∃ other ∈ earlier, ¬ KeyDisjoint group other) →
    ∃ failure owners, outcome = ⟨read.specification, read.kind, .error failure⟩ ∧
      failure.code = .keyAlreadyGrouped ∧ failure.message = clashMessage name owners ∧
      failure.keys = owners.map Prod.fst ∧
      Schema.ListsOnce group.keys failure.keys (fun key => ∃ other ∈ earlier, key ∈ other.keys) ∧
      ∀ entry ∈ owners, ∃ other ∈ earlier, entry.1 ∈ other.keys ∧ other.name = entry.2
  /-- If it was not read, the failure is kept. -/
  unread : ∀ failure, read.result = .error failure → outcome = read

namespace Schema

variable {owned : Ownership} {groups : List Group}

theorem disjoint_iff_unowned (records : owned.Records groups) (group : Group) :
    (∀ other ∈ groups, KeyDisjoint group other) ↔ ∀ key ∈ group.keys, key ∉ owned.keys := by
  constructor
  · intro apart key listed isOwned
    obtain ⟨other, member, shared⟩ := (records.mem_keys_iff key).mp isOwned
    exact apart other member key listed shared
  · intro unowned other member key listed shared
    exact unowned key listed ((records.mem_keys_iff key).mpr ⟨other, member, shared⟩)

theorem isSettled_settle (records : owned.Records groups) (name : String) (read : Outcome Group) :
    IsSettled groups name read (settle owned name read) where
  registered group := by rw [settle_eq_ok_iff, disjoint_iff_unowned records]
  kept group result := by
    obtain ⟨wasRead, unowned⟩ := settle_eq_ok_iff.mp result
    have free : (owned.taken group.keys).isEmpty = true := by
      rw [List.isEmpty_iff, owned.taken_eq_nil_iff]
      exact unowned
    simp only [settle, wasRead, if_pos free]
  refused group result := by
    rintro ⟨other, member, shared⟩
    have clash : ¬ (owned.taken group.keys).isEmpty = true := by
      rw [List.isEmpty_iff, owned.taken_eq_nil_iff, ← disjoint_iff_unowned records]
      exact fun apart => shared (apart other member)
    obtain ⟨listed, backed⟩ := records.taken group.keys
    refine ⟨.alreadyGrouped name (owned.taken group.keys), owned.taken group.keys, ?_, rfl, rfl,
      rfl, listed, backed⟩
    simp only [settle, result, if_neg clash]
  unread failure result := by simp only [settle, result]

/-! ## All groups -/

theorem length_registerFrom (schema : Schema) (owned : Ownership)
    (specifications : List (String × String)) :
    (schema.registerFrom owned specifications).length = specifications.length := by
  induction specifications generalizing owned with
  | nil => rfl
  | cons specification rest ih => simp [registerFrom, ih]

/-- A run goes on from the ownership that its front leaves. -/
theorem registerFrom_append (schema : Schema) (owned : Ownership)
    (front back : List (String × String)) :
    schema.registerFrom owned (front ++ back) = schema.registerFrom owned front
      ++ schema.registerFrom ((schema.registerFrom owned front).foldl ownedAfter owned) back := by
  induction front generalizing owned with
  | nil => rfl
  | cons specification front ih =>
    simp only [List.cons_append, registerFrom, ih, List.foldl_cons]

theorem ownedAfter_of_error {outcome : Outcome Group} {failure : Failure}
    (failed : outcome.result = .error failure) : ownedAfter owned outcome = owned := by
  simp only [ownedAfter, failed]

/-- The outcome of a group among others, by the groups registered before it. -/
theorem exists_outcome (schema : Schema) (front back : List (String × String))
    (name text : String) :
    ∃ outcome behind,
      schema.registerGroups (front ++ (name, text) :: back) =
        schema.registerGroups front ++ outcome :: behind ∧
      IsSettled (Outcome.successes (schema.registerGroups front)) name
        (Group.read schema name text) outcome ∧
      (∀ failure, outcome.result = .error failure →
        schema.registerGroups (front ++ back) = schema.registerGroups front ++ behind) := by
  have records := Ownership.records_nil.afterAll (schema.registerGroups front)
  rw [List.nil_append] at records
  refine ⟨_, _, registerFrom_append schema [] front ((name, text) :: back),
    isSettled_settle records name (Group.read schema name text), ?_⟩
  intro failure failed
  -- The group that failed leaves the ownership as its front did.
  rw [ownedAfter_of_error failed]
  exact registerFrom_append schema [] front back

variable (schema : Schema) {specifications : List (String × String)}

/-- The outcomes of the first texts are the first outcomes. -/
theorem registerGroups_take (count : Nat) :
    schema.registerGroups (specifications.take count) =
      (schema.registerGroups specifications).take count := by
  unfold registerGroups
  by_cases inside : count ≤ specifications.length
  · have whole := registerFrom_append schema [] (specifications.take count)
      (specifications.drop count)
    rw [List.take_append_drop] at whole
    rw [whole, List.take_left']
    rw [length_registerFrom, List.length_take_of_le inside]
  · have all : specifications.length ≤ count := Nat.le_of_not_le inside
    rw [List.take_of_length_le all, List.take_of_length_le]
    rw [length_registerFrom]
    exact all

/-- A list around one of its members. -/
theorem eq_take_append_drop {α : Type} {list : List α} {place : Nat} {item : α}
    (found : list[place]? = some item) :
    list = list.take place ++ item :: list.drop (place + 1) := by
  obtain ⟨inside, rfl⟩ := List.getElem?_eq_some_iff.mp found
  rw [← List.drop_eq_getElem_cons inside, List.take_append_drop]

/-- The outcome at a place, by the groups registered before it. -/
theorem exists_outcome_at {place : Nat} {name text : String}
    (found : specifications[place]? = some (name, text)) :
    ∃ outcome, (schema.registerGroups specifications)[place]? = some outcome ∧
      IsSettled (Outcome.successes ((schema.registerGroups specifications).take place)) name
        (Group.read schema name text) outcome ∧
      (∀ failure, outcome.result = .error failure →
        schema.registerGroups (specifications.eraseIdx place) =
          (schema.registerGroups specifications).eraseIdx place) := by
  obtain ⟨outcome, behind, run, settled, without⟩ := exists_outcome schema
    (specifications.take place) (specifications.drop (place + 1)) name text
  rw [← eq_take_append_drop found] at run
  have inside : place < specifications.length := (List.getElem?_eq_some_iff.mp found).1
  have length : (schema.registerGroups (specifications.take place)).length = place := by
    rw [registerGroups, length_registerFrom, List.length_take_of_le (Nat.le_of_lt inside)]
  refine ⟨outcome, ?_, ?_, ?_⟩
  · rw [run, List.getElem?_append_right (Nat.le_of_eq length), length, Nat.sub_self]
    rfl
  · rw [← registerGroups_take]
    exact settled
  · intro failure failed
    rw [List.eraseIdx_eq_take_drop_succ, without failure failed, run,
      List.eraseIdx_append_of_length_le (Nat.le_of_eq length), length, Nat.sub_self]
    rfl

end Schema

/-! ## The operation -/

namespace Unchecked

/-- Names and texts as they are passed. -/
def asArguments (specifications : List (String × String)) : List (Value × Value) :=
  specifications.map fun entry => (.text entry.1, .text entry.2)

theorem checkSpecifications_asArguments (specifications : List (String × String)) :
    checkSpecifications (asArguments specifications) = pure specifications := by
  induction specifications with
  | nil => rfl
  | cons specification rest ih =>
    have opened : checkSpecifications (asArguments (specification :: rest)) =
        (checkSpecifications (asArguments rest)).andThen
          fun others => pure (specification :: others) := rfl
    rw [opened, ih]
    rfl

theorem registerGroups_asArguments (schema : Schema) (specifications : List (String × String)) :
    registerGroups (.schema schema) (asArguments specifications) =
      pure (schema.registerGroups specifications) := by
  have opened : registerGroups (.schema schema) (asArguments specifications) =
      (checkSpecifications (asArguments specifications)).andThen
        fun checked => pure (schema.registerGroups checked) := rfl
  rw [opened, checkSpecifications_asArguments]
  rfl

/-- **Registration is first come, all or nothing, and blind to refused groups.**  Every named text
has one outcome, in order.  It is settled by the groups that were registered before it.  The
registered groups share no key, the outcomes of the first texts are the first outcomes, and
leaving out a text that failed leaves the other outcomes as they are. -/
theorem registerGroups_firstCome (schema : Schema) (specifications : List (String × String)) :
    ∃ outcomes,
      (registerGroups (.schema schema) (asArguments specifications)).result = .ok outcomes ∧
      outcomes.length = specifications.length ∧
      (∀ (place : Nat) (name text : String), specifications[place]? = some (name, text) →
        ∃ outcome, outcomes[place]? = some outcome ∧
          IsSettled (Outcome.successes (outcomes.take place)) name
            (Group.read schema name text) outcome) ∧
      (Outcome.successes outcomes).Pairwise KeyDisjoint ∧
      (∀ count, (registerGroups (.schema schema) (asArguments (specifications.take count))).result =
        .ok (outcomes.take count)) ∧
      (∀ (place : Nat) (outcome : Outcome Group) (failure : Failure),
        outcomes[place]? = some outcome → outcome.result = .error failure →
        (registerGroups (.schema schema) (asArguments (specifications.eraseIdx place))).result =
          .ok (outcomes.eraseIdx place)) := by
  have run (list : List (String × String)) :
      (registerGroups (.schema schema) (asArguments list)).result =
        .ok (schema.registerGroups list) := by
    rw [registerGroups_asArguments]
    rfl
  refine ⟨schema.registerGroups specifications, run _, schema.length_registerFrom _ _, ?_,
    (schema.registerFrom_spec [] specifications).1.disjoint, ?_, ?_⟩
  · intro place name text found
    obtain ⟨outcome, here, settled, -⟩ := schema.exists_outcome_at found
    exact ⟨outcome, here, settled⟩
  · intro count
    rw [run, schema.registerGroups_take]
  · intro place outcome failure here failed
    have inside : place < specifications.length := by
      rw [← schema.length_registerFrom []]
      exact (List.getElem?_eq_some_iff.mp here).1
    obtain ⟨other, same, -, without⟩ := schema.exists_outcome_at
      (List.getElem?_eq_getElem inside)
    obtain rfl : outcome = other := Option.some.inj (here.symm.trans same)
    rw [run, without failure failed]

end Unchecked

end FieldRules
