import FieldRules.Proofs.Group.Overlap
import FieldRules.Proofs.Schema.WellFormed

/-!
# The filter by type

The filter keeps the choices and groups all of whose keys are declared with one
type.  What it keeps stands at some places of the list (`Unchecked.StandsAt`), so
the six types are compared by places: equal members of a list are told apart.

A list of keys has a type when there is a key in it, and then one type at most.
So the places of different types have nothing in common, and what was kept for a
type is kept whole when it is filtered for it again and dropped whole when it is
filtered for another (`Unchecked.splitsByType`).  An empty list of keys would be
kept for every type; a choice or a group that was read has a key, and so has an
entry of a layout.

The choices of a type are the choices of the schema, filtered
(`Unchecked.extractOnlyOneByType_eq_filter`).
-/

set_option autoImplicit false

namespace FieldRules

/-- A choice or a group with a key at least. -/
structure Dependency.ListsKeys (rule : Dependency) : Prop where
  isList : rule.isList = true
  nonempty : rule.keys ≠ []

/-! ## The type of a list of keys -/

namespace Schema

/-- Every key is declared with the type. -/
def AllOfType (schema : Schema) (type : DataType) (keys : List String) : Prop :=
  ∀ key ∈ keys, ∃ property, schema.property? key = some property ∧ property.type = some type

/-- Whether the filter keeps a dependency for a type. -/
def keeps (schema : Schema) (type : DataType) (rule : Dependency) : Bool :=
  rule.keys.all (schema.hasType type)

variable {schema : Schema} {type other : DataType} {keys : List String} {rule : Dependency}

theorem keeps_iff : schema.keeps type rule = true ↔ schema.AllOfType type rule.keys := by
  simp only [keeps, List.all_eq_true, hasType_iff, AllOfType]

/-- A list of keys has one type at most. -/
theorem AllOfType.unique (ofType : schema.AllOfType type keys)
    (ofOther : schema.AllOfType other keys) (nonempty : keys ≠ []) : type = other := by
  obtain ⟨key, listed⟩ := List.exists_mem_of_ne_nil keys nonempty
  obtain ⟨property, found, typed⟩ := ofType key listed
  obtain ⟨again, foundAgain, typedAgain⟩ := ofOther key listed
  obtain rfl : property = again := Option.some.inj (found.symm.trans foundAgain)
  exact Option.some.inj (typed.symm.trans typedAgain)

/-- The keys of a list have some type when they are declared with one and the same. -/
theorem exists_allOfType_iff :
    (∃ type, schema.AllOfType type keys) ↔
      (∀ key ∈ keys, key ∈ schema.keys) ∧ ∃ type, ∀ key ∈ keys, schema.typeOf key = some type := by
  constructor
  · rintro ⟨type, ofType⟩
    constructor
    · intro key listed
      obtain ⟨property, found, -⟩ := ofType key listed
      rw [← schema.declares_iff, declares, found, Option.isSome_some]
    · exact ⟨type, fun key listed => typeOf_eq_some_iff.mpr (ofType key listed)⟩
  · rintro ⟨-, type, ofType⟩
    exact ⟨type, fun key listed => typeOf_eq_some_iff.mp (ofType key listed)⟩

end Schema

/-! ## What is kept of a list -/

namespace Unchecked

/-- What is kept of a list stands at some places of it, in the order of the list. -/
structure StandsAt (places : List Nat) (rules kept : List Dependency) : Prop where
  increasing : places.Pairwise (· < ·)
  verbatim : kept.map some = places.map fun place => rules[place]?

theorem standsAt_filter (rules : List Dependency) (keeps : Dependency → Bool) :
    StandsAt (rules.findIdxs keeps) rules (rules.filter keeps) := by
  refine ⟨List.pairwise_findIdxs, ?_⟩
  apply List.ext_getElem
  · simp [List.countP_eq_length_filter]
  · intro i inKept inPlaces
    rw [List.length_map] at inKept inPlaces
    rw [List.getElem_map, List.getElem_map,
      List.getElem_filter_eq_getElem_getElem_findIdxs inKept, List.getElem?_eq_getElem]

section Filtering

variable {schema : Schema} {rules : List Dependency}

/-- The filter keeps the members of a list of choices and groups whose keys have the type. -/
theorem filterByType_passed (lists : ∀ rule ∈ rules, rule.isList = true) (type : Value) :
    filterByType (.schema schema) (passed rules) type =
      (checkType type).andThen fun wanted =>
        pure (passed (rules.filter (schema.keeps wanted))) := by
  have textsOnly : (passed rules).filter listsTexts = passed rules := by
    rw [List.filter_eq_self, passed, List.forall_mem_map]
    exact fun rule member => listsTexts_toDraft (lists rule member)
  have kept (wanted : DataType) : schema.filterByType wanted (passed rules) =
      passed (rules.filter (schema.keeps wanted)) := by
    rw [Schema.filterByType, passed, List.filter_map, passed]
    refine congrArg (List.map Dependency.toDraft) (List.filter_congr fun rule member => ?_)
    rw [Function.comp_apply, keys_toDraft (lists rule member), Schema.keeps]
  have opened : filterByType (.schema schema) (passed rules) type =
      (checkType type).andThen fun wanted => (checkAllListed (passed rules)).andThen fun _ =>
        pure (schema.filterByType wanted ((passed rules).filter listsTexts)) := rfl
  rw [opened, checkAllListed_passed lists, textsOnly]
  simp only [kept]
  rfl

theorem result_filterByType (lists : ∀ rule ∈ rules, rule.isList = true) (type : DataType) :
    (filterByType (.schema schema) (passed rules) (.text type.name)).result =
      .ok (passed (rules.filter (schema.keeps type))) := by
  rw [filterByType_passed lists, checkType_name]
  rfl

end Filtering

/-! ## The six types -/

/-- The filter splits a list of choices and groups: for each type it keeps what stands at the places
of the type. -/
structure SplitsByType (schema : Schema) (rules : List Dependency)
    (places : DataType → List Nat) (kept : DataType → List Dependency) : Prop where
  /-- The filter returns what it keeps for a type. -/
  returned : ∀ type, (filterByType (.schema schema) (passed rules) (.text type.name)).result =
    .ok (passed (kept type))
  /-- What it keeps stands at the places of the type, unchanged and in order. -/
  standing : ∀ type, StandsAt (places type) rules (kept type)
  /-- No place is of two types. -/
  apart : ∀ type other, type ≠ other → List.Disjoint (places type) (places other)
  /-- A place is of a type when all keys of the member there are declared with it. -/
  placed : ∀ type place, place ∈ places type ↔
    ∃ rule, rules[place]? = some rule ∧ schema.AllOfType type rule.keys
  /-- A place is of some type when all keys of the member there are declared, with one and the same
  type. -/
  placedForSome : ∀ place, (∃ type, place ∈ places type) ↔
    ∃ rule, rules[place]? = some rule ∧ (∀ key ∈ rule.keys, key ∈ schema.keys) ∧
      ∃ type, ∀ key ∈ rule.keys, schema.typeOf key = some type
  /-- Filtering again for the type changes nothing. -/
  again : ∀ type,
    (filterByType (.schema schema) (passed (kept type)) (.text type.name)).result =
      .ok (passed (kept type))
  /-- Filtering for another type leaves nothing. -/
  another : ∀ type other, type ≠ other →
    (filterByType (.schema schema) (passed (kept type)) (.text other.name)).result = .ok []

section Places

variable {schema : Schema} {rules : List Dependency} {type other : DataType} {place : Nat}

theorem mem_places_iff : place ∈ rules.findIdxs (schema.keeps type) ↔
    ∃ rule, rules[place]? = some rule ∧ schema.AllOfType type rule.keys := by
  rw [List.mem_findIdxs_iff_exists_getElem_pos]
  simp only [Schema.keeps_iff, List.getElem?_eq_some_iff]
  constructor
  · rintro ⟨inside, ofType⟩
    exact ⟨rules[place], ⟨inside, rfl⟩, ofType⟩
  · rintro ⟨rule, ⟨inside, rfl⟩, ofType⟩
    exact ⟨inside, ofType⟩

/-- Nothing that has a key is kept for two types. -/
theorem filter_keeps_of_ne (different : type ≠ other) (nonempty : ∀ rule ∈ rules, rule.keys ≠ []) :
    (rules.filter (schema.keeps type)).filter (schema.keeps other) = [] := by
  rw [List.filter_eq_nil_iff]
  intro rule member
  obtain ⟨inside, typed⟩ := List.mem_filter.mp member
  rw [Schema.keeps_iff] at typed ⊢
  exact fun typedAgain => different (typed.unique typedAgain (nonempty rule inside))

end Places

theorem splitsByType (schema : Schema) {rules : List Dependency}
    (listed : ∀ rule ∈ rules, rule.ListsKeys) :
    SplitsByType schema rules (fun type => rules.findIdxs (schema.keeps type))
      (fun type => rules.filter (schema.keeps type)) := by
  have lists : ∀ rule ∈ rules, rule.isList = true := fun rule member => (listed rule member).isList
  have keptLists (type : DataType) :
      ∀ rule ∈ rules.filter (schema.keeps type), rule.isList = true :=
    fun rule member => lists rule (List.mem_of_mem_filter member)
  constructor
  case returned => exact result_filterByType lists
  case standing => exact fun type => standsAt_filter rules (schema.keeps type)
  case apart =>
    intro type other different place ofType ofOther
    obtain ⟨rule, found, typed⟩ := mem_places_iff.mp ofType
    obtain ⟨again, foundAgain, typedAgain⟩ := mem_places_iff.mp ofOther
    obtain rfl : rule = again := Option.some.inj (found.symm.trans foundAgain)
    have nonempty := (listed rule (List.mem_of_getElem? found)).nonempty
    exact different (typed.unique typedAgain nonempty)
  case placed => exact fun type place => mem_places_iff
  case placedForSome =>
    intro place
    simp only [mem_places_iff, ← Schema.exists_allOfType_iff]
    exact ⟨fun ⟨type, rule, found, typed⟩ => ⟨rule, found, type, typed⟩,
      fun ⟨rule, found, type, typed⟩ => ⟨type, rule, found, typed⟩⟩
  case again =>
    intro type
    rw [result_filterByType (keptLists type), List.filter_filter]
    simp only [Bool.and_self]
  case another =>
    intro type other different
    have nonempty : ∀ rule ∈ rules, rule.keys ≠ [] :=
      fun rule member => (listed rule member).nonempty
    rw [result_filterByType (keptLists type), filter_keeps_of_ne different nonempty]
    rfl

/-! ## What is extracted -/

/-- The choices of a type are the choices of the schema, filtered, and so are the notices and the
refusal of what names no type. -/
theorem extractOnlyOneByType_eq_filter (schema : Schema) (settings : Settings) (type : Value) :
    (do let kept ← extractOnlyOneByType (.schema schema) settings type
        return passed (kept.map .onlyOne)) =
      (do let choices ← extractOnlyOne (.schema schema) settings
          filterByType (.schema schema) (passed (choices.map .onlyOne)) type) := by
  have opened : extractOnlyOneByType (.schema schema) settings type =
      extractOnlyOne (.schema schema) settings >>= fun choices =>
        checkType type >>= fun wanted => pure (schema.filterByType wanted choices) := rfl
  rw [opened]
  simp only [bind_assoc, pure_bind]
  apply bind_congr
  intro choices
  have lists : ∀ rule ∈ choices.map Dependency.onlyOne, rule.isList = true := by
    simp [Dependency.isList]
  rw [filterByType_passed lists]
  apply bind_congr
  intro wanted
  have kept : (choices.map Dependency.onlyOne).filter (schema.keeps wanted) =
      (schema.filterByType wanted choices).map Dependency.onlyOne := List.filter_map
  rw [kept]

theorem listsKeys_of_extractOnlyOne {schema : Schema} {settings : Settings}
    {choices : List OnlyOne}
    (returned : (extractOnlyOne (.schema schema) settings).result = .ok choices) :
    ∀ rule ∈ choices.map Dependency.onlyOne, rule.ListsKeys := by
  rw [List.forall_mem_map]
  intro rule member
  have admitted := admits_of_extractOnlyOne returned rule member
  exact ⟨rfl, List.ne_nil_of_length_pos (Nat.zero_lt_of_lt admitted.enough)⟩

theorem listsKeys_of_extractGroups {schema : Schema} {settings : Settings} {singletons : Value}
    {shown : List Group}
    (returned : (extractGroups (.schema schema) settings singletons).result = .ok shown) :
    ∀ rule ∈ shown.map Dependency.group, rule.ListsKeys := by
  rw [List.forall_mem_map]
  intro group member
  have admitted := admits_of_extractGroups returned group member
  exact ⟨rfl, List.ne_nil_of_length_pos admitted.enough⟩

/-- The filter splits every list of choices and groups with keys by type, also those that are
extracted, and the choices of a type are what it keeps of the choices. -/
structure FiltersByType (schema : Schema) (settings : Settings) : Prop where
  /-- Any choices and groups with a key each are split. -/
  splits : ∀ rules : List Dependency, (∀ rule ∈ rules, rule.ListsKeys) →
    ∃ places kept, SplitsByType schema rules places kept
  /-- The choices of the schema are split. -/
  splitsChoices : ∀ choices, (extractOnlyOne (.schema schema) settings).result = .ok choices →
    ∃ places kept, SplitsByType schema (choices.map .onlyOne) places kept
  /-- The groups of the schema are split, with and without single properties. -/
  splitsGroups : ∀ singletons shown,
    (extractGroups (.schema schema) settings singletons).result = .ok shown →
    ∃ places kept, SplitsByType schema (shown.map .group) places kept
  /-- The choices of a type are the choices of the schema, filtered. -/
  choicesOfType : ∀ type : Value,
    (do let kept ← extractOnlyOneByType (.schema schema) settings type
        return passed (kept.map .onlyOne)) =
      (do let choices ← extractOnlyOne (.schema schema) settings
          filterByType (.schema schema) (passed (choices.map .onlyOne)) type)

/-- **The filter by type splits the choices and groups.** -/
theorem filter_splits_by_type (schema : Schema) (settings : Settings) :
    FiltersByType schema settings where
  splits _ listed := ⟨_, _, splitsByType schema listed⟩
  splitsChoices _ returned := ⟨_, _, splitsByType schema (listsKeys_of_extractOnlyOne returned)⟩
  splitsGroups _ _ returned := ⟨_, _, splitsByType schema (listsKeys_of_extractGroups returned)⟩
  choicesOfType := extractOnlyOneByType_eq_filter schema settings

/-- A schema with properties of two types and one without a type. -/
def typedSchema : Schema :=
  ⟨.ofList [⟨"a", some .string, none, none⟩, ⟨"b", some .string, none, none⟩,
    ⟨"c", some .number, none, none⟩, ⟨"d", none, none, none⟩], []⟩

/-- Choices and groups with a repeated key, of two types, with a key without a type, and with an
undeclared key; one choice is listed twice. -/
def mixedRules : List Dependency :=
  [.onlyOne ⟨["a", "b"]⟩, .onlyOne ⟨["a", "c"]⟩, .group ⟨"twice", ["b", "b"]⟩,
    .onlyOne ⟨["d", "a"]⟩, .group ⟨"undeclared", ["b", "x"]⟩, .onlyOne ⟨["a", "b"]⟩,
    .group ⟨"number", ["c"]⟩]

/-- A repeated key keeps no list out, but a key of another type, without a type or undeclared does. -/
theorem split_of_mixedRules :
    (∀ rule ∈ mixedRules, rule.ListsKeys) ∧
    ∃ places kept, SplitsByType typedSchema mixedRules places kept ∧
      passed (kept .string) = passed [.onlyOne ⟨["a", "b"]⟩, .group ⟨"twice", ["b", "b"]⟩,
        .onlyOne ⟨["a", "b"]⟩] ∧
      passed (kept .number) = passed [.group ⟨"number", ["c"]⟩] ∧
      kept .boolean = [] := by
  have listed : ∀ rule ∈ mixedRules, rule.ListsKeys := by
    simp only [mixedRules, List.forall_mem_cons, List.not_mem_nil, IsEmpty.forall_iff,
      implies_true, and_true]
    refine ⟨?_, ?_, ?_, ?_, ?_, ?_, ?_⟩ <;> exact ⟨rfl, by decide⟩
  obtain ⟨places, kept, splits⟩ :=
    (filter_splits_by_type typedSchema ⟨true, true⟩).splits mixedRules listed
  refine ⟨listed, places, kept, splits, ?_, ?_, ?_⟩
  · exact (Except.ok.inj (splits.returned .string)).symm
  · exact (Except.ok.inj (splits.returned .number)).symm
  · exact List.map_eq_nil_iff.mp (Except.ok.inj (splits.returned .boolean)).symm

end Unchecked

end FieldRules
