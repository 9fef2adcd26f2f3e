import FieldRules.Proofs.Group.Layout
import FieldRules.Unchecked
import Mathlib.Algebra.Group.Nat.Defs
import Mathlib.Data.List.Nodup

/-!
# The partition into groups

The layout of registered groups, shown with the properties that are placed
alone, is an ordered partition of the declared keys.  Its entries are the
registered groups and one entry for each property in no group, each once, in the
order of their earliest declared keys.

The groups of a schema are extracted whenever the names of its groups can be
written.  A name is any key of a document mapping, so it can be an integer with
too many digits to be written, and then nothing is extracted.
-/

set_option autoImplicit false

namespace FieldRules

/-- The entry that shows a placement. -/
def Placement.entry : Placement Group → Group
  | .group listed => listed
  | .alone property => Schema.singleton property

theorem Placement.keys_entry (placement : Placement Group) :
    placement.entry.keys = placement.keys := by
  cases placement <;> rfl

namespace Schema

/-- The declared properties that no group lists. -/
def ungrouped (schema : Schema) (groups : List Group) : List Property :=
  schema.properties.toList.filter fun property =>
    groups.all fun group => !group.keys.contains property.key

/-- An ordered partition of the declared keys into groups and single properties: every declared key
is in one entry and no other key is in any, the entries are the groups and the single properties in
no group, and they stand in the order of their earliest declared keys. -/
structure IsPartition (schema : Schema) (groups entries : List Group) : Prop where
  once : ∀ key ∈ schema.keys, (entries.countP fun entry => entry.keys.contains key) = 1
  declared : ∀ entry ∈ entries, ∀ key ∈ entry.keys, key ∈ schema.keys
  members : entries.Perm (groups ++ (schema.ungrouped groups).map singleton)
  ordered : entries.Pairwise fun left right =>
    earliest schema.keys left.keys < earliest schema.keys right.keys

variable {schema : Schema} {groups : List Group}

theorem mem_ungrouped {property : Property} :
    property ∈ schema.ungrouped groups ↔
      property ∈ schema.properties.toList ∧ ∀ group ∈ groups, property.key ∉ group.keys := by
  simp [ungrouped]

theorem exists_property {key : String} (declared : key ∈ schema.keys) :
    ∃ property ∈ schema.properties.toList, property.key = key :=
  List.mem_map.mp declared

theorem eq_of_same_key {left right : Property} (leftMember : left ∈ schema.properties.toList)
    (rightMember : right ∈ schema.properties.toList) (same : left.key = right.key) :
    left = right :=
  List.inj_on_of_nodup_map schema.properties.keys_nodup leftMember rightMember same

/-- A group is not the entry of a property in no group. -/
theorem not_mem_singletons {group : Group} (member : group ∈ groups) :
    group ∉ (schema.ungrouped groups).map singleton := by
  intro single
  obtain ⟨property, free, rfl⟩ := List.mem_map.mp single
  exact (mem_ungrouped.mp free).2 _ member List.mem_cons_self

/-- Items that exclude each other are counted once at most. -/
theorem countP_le_one {α : Type} {p : α → Bool} {list : List α}
    (exclusive : list.Pairwise fun left right => p left = true → p right = false) :
    list.countP p ≤ 1 := by
  induction list with
  | nil => exact Nat.zero_le 1
  | cons first rest ih =>
    obtain ⟨excludes, behind⟩ := List.pairwise_cons.mp exclusive
    cases here : p first with
    | true =>
      have none : rest.countP p = 0 := by
        rw [List.countP_eq_zero]
        intro other inRest
        rw [excludes other inRest here]
        decide
      exact Nat.le_of_eq (by rw [List.countP_cons_of_pos here, none])
    | false =>
      rw [List.countP_cons_of_neg (by simp [here])]
      exact ih behind

/-- An item that excludes all others of a list is counted once. -/
theorem countP_eq_one {α : Type} {p : α → Bool} {list : List α}
    (exclusive : list.Pairwise fun left right => p left = true → p right = false) {item : α}
    (member : item ∈ list) (holds : p item = true) : list.countP p = 1 :=
  Nat.le_antisymm (countP_le_one exclusive) (List.countP_pos_iff.mpr ⟨item, member, holds⟩)

/-! ## The shown layout -/

theorem assembleGroups_true (schema : Schema) (groups : List Group) :
    schema.assembleGroups groups true = (schema.layout groups).map Placement.entry := by
  rw [assembleGroups, assemble, ← List.filterMap_eq_map]
  congr 1
  funext placement
  cases placement <;> rfl

theorem assembleGroups_congr {other : Schema} (same : other.properties = schema.properties)
    (groups : List Group) (includeSingletons : Bool) :
    other.assembleGroups groups includeSingletons =
      schema.assembleGroups groups includeSingletons := by
  simp only [assembleGroups, assemble, layout, same]

/-- A test that the groups of a layout pass and its single properties fail leaves the groups. -/
theorem filterMap_show?_none {p : Group → Bool} {layout : List (Placement Group)}
    (passes : ∀ group, .group group ∈ layout → p group = true)
    (fails : ∀ property, .alone property ∈ layout → p (singleton property) = false) :
    layout.filterMap (Placement.show? fun _ => none) =
      (layout.map Placement.entry).filter p := by
  induction layout with
  | nil => rfl
  | cons placement layout ih =>
    have behind := ih (fun group member => passes group (List.mem_cons_of_mem _ member))
      (fun property member => fails property (List.mem_cons_of_mem _ member))
    cases placement with
    | group group =>
      have kept : p (Placement.group group).entry = true := passes group List.mem_cons_self
      rw [List.map_cons, List.filter_cons_of_pos kept, ← behind]
      rfl
    | alone property =>
      have dropped : ¬ p (Placement.alone property).entry = true := by
        rw [show p (Placement.alone property).entry = false from fails property List.mem_cons_self]
        decide
      rw [List.map_cons, List.filter_cons_of_neg dropped, ← behind]
      rfl

/-- A declared key is in the entry of some placement. -/
theorem exists_placement (groups : List Group) {property : Property}
    (member : property ∈ schema.properties.toList) :
    ∃ placement ∈ schema.layout groups, property.key ∈ placement.keys :=
  (covers_layoutFrom groups [] schema.properties.toList property member).resolve_left
    List.not_mem_nil

/-- The properties placed alone are those in no group. -/
theorem mem_layout_alone {property : Property} :
    .alone property ∈ schema.layout groups ↔ property ∈ schema.ungrouped groups := by
  rw [mem_ungrouped]
  refine ⟨free_of_alone_mem_layoutFrom, fun ⟨member, free⟩ => ?_⟩
  obtain ⟨placement, inLayout, placed⟩ := exists_placement groups member
  cases placement with
  | group owner =>
    have ownerMember := mem_of_group_mem_layoutFrom inLayout
    exact absurd placed (free owner ownerMember)
  | alone other =>
    have otherMember := (free_of_alone_mem_layoutFrom inLayout).1
    rw [eq_of_same_key member otherMember (List.mem_singleton.mp placed)]
    exact inLayout

/-- Without the single properties, what is left are the placed groups in the same order. -/
theorem assembleGroups_false (schema : Schema) (groups : List Group) :
    schema.assembleGroups groups false = (schema.assembleGroups groups true).filter
      fun entry => decide (entry ∉ (schema.ungrouped groups).map singleton) := by
  rw [assembleGroups_true]
  refine filterMap_show?_none (fun group inLayout => ?_) (fun property inLayout => ?_)
  · rw [decide_eq_true_eq]
    exact not_mem_singletons (mem_of_group_mem_layoutFrom inLayout)
  · have free := mem_layout_alone.mp inLayout
    rw [decide_eq_false_iff_not, Classical.not_not]
    exact List.mem_map_of_mem free

theorem assembleGroups_sublist (schema : Schema) (groups : List Group) (includeSingletons : Bool) :
    (schema.assembleGroups groups includeSingletons).Sublist
      (schema.assembleGroups groups true) := by
  cases includeSingletons with
  | true => exact List.Sublist.refl _
  | false =>
    rw [assembleGroups_false]
    exact List.filter_sublist

/-- An entry is a group or the entry of a property in no group. -/
theorem mem_assembleGroups_cases {includeSingletons : Bool} {entry : Group}
    (member : entry ∈ schema.assembleGroups groups includeSingletons) :
    entry ∈ groups ∨ ∃ property ∈ schema.ungrouped groups, entry = singleton property := by
  have shown := (assembleGroups_sublist schema groups includeSingletons).subset member
  rw [assembleGroups_true] at shown
  obtain ⟨placement, inLayout, rfl⟩ := List.mem_map.mp shown
  cases placement with
  | group group => exact .inl (mem_of_group_mem_layoutFrom inLayout)
  | alone property => exact .inr ⟨property, mem_layout_alone.mp inLayout, rfl⟩

theorem singleton_mem_assembleGroups {property : Property}
    (free : property ∈ schema.ungrouped groups) :
    singleton property ∈ schema.assembleGroups groups true := by
  rw [assembleGroups_true]
  exact List.mem_map_of_mem (mem_layout_alone.mpr free)

/-- A declared key is in some entry. -/
theorem exists_entry (groups : List Group) {property : Property}
    (member : property ∈ schema.properties.toList) :
    ∃ entry ∈ schema.assembleGroups groups true, property.key ∈ entry.keys := by
  obtain ⟨placement, inLayout, placed⟩ := exists_placement groups member
  rw [← Placement.keys_entry] at placed
  refine ⟨placement.entry, ?_, placed⟩
  rw [assembleGroups_true]
  exact List.mem_map_of_mem inLayout

variable (registered : schema.AreRegistered groups)
include registered

theorem laid_layout : Laid groups [] schema.properties.toList (schema.layout groups) :=
  laid_layoutFrom registered.disjoint schema.properties.toList isClosed_nil

/-- The placements are the groups and the properties in no group. -/
theorem mem_layout_group {group : Group} :
    .group group ∈ schema.layout groups ↔ group ∈ groups := by
  refine ⟨mem_of_group_mem_layoutFrom, fun member => ?_⟩
  obtain ⟨key, listed⟩ := List.exists_mem_of_ne_nil _ (registered.nonempty group member)
  have declared := (schema.declares_iff key).mp (registered.declared group member key listed)
  obtain ⟨property, inSchema, rfl⟩ := exists_property declared
  obtain ⟨placement, inLayout, placed⟩ := exists_placement groups inSchema
  cases placement with
  | group other =>
    have otherMember := mem_of_group_mem_layoutFrom inLayout
    rw [eq_of_shared_key registered.disjoint member otherMember listed placed]
    exact inLayout
  | alone other =>
    have free := (free_of_alone_mem_layoutFrom inLayout).2 group member
    rw [← List.mem_singleton.mp placed] at free
    exact absurd listed free

/-! ## The entries -/

theorem mem_assembleGroups_true {entry : Group} :
    entry ∈ schema.assembleGroups groups true ↔
      entry ∈ groups ++ (schema.ungrouped groups).map singleton := by
  rw [List.mem_append, List.mem_map]
  constructor
  · intro member
    rcases mem_assembleGroups_cases member with isGroup | ⟨property, free, rfl⟩
    · exact .inl isGroup
    · exact .inr ⟨property, free, rfl⟩
  · rintro (member | ⟨property, free, rfl⟩)
    · rw [assembleGroups_true]
      exact List.mem_map_of_mem ((mem_layout_group registered).mpr member)
    · exact singleton_mem_assembleGroups free

theorem ordered_assembleGroups_true :
    (schema.assembleGroups groups true).Pairwise fun left right =>
      earliest schema.keys left.keys < earliest schema.keys right.keys := by
  rw [assembleGroups_true, List.pairwise_map]
  simp only [Placement.keys_entry]
  have none : ∀ key ∈ ([] : List String), key ∈ ([] : List String) := fun _ => id
  exact (laid_layout registered).ordered none

theorem exclusive_assembleGroups_true :
    (schema.assembleGroups groups true).Pairwise fun left right =>
      ∀ key ∈ left.keys, key ∉ right.keys := by
  rw [assembleGroups_true, List.pairwise_map]
  simp only [Placement.keys_entry]
  exact (laid_layout registered).exclusive

theorem nodup_groups_append_ungrouped :
    (groups ++ (schema.ungrouped groups).map singleton).Nodup := by
  rw [List.nodup_append]
  refine ⟨?_, ?_, ?_⟩
  · refine registered.disjoint.imp_of_mem fun {left right} leftMember _ apart same => ?_
    obtain ⟨key, listed⟩ := List.exists_mem_of_ne_nil _ (registered.nonempty left leftMember)
    rw [← same] at apart
    exact apart key listed listed
  · have keys : ((schema.ungrouped groups).map singleton).map Group.keys =
        ((schema.ungrouped groups).map Property.key).map fun key => [key] := by
      simp [singleton, Function.comp_def]
    apply List.Nodup.of_map Group.keys
    rw [keys]
    refine List.Nodup.map (fun left right same => (List.cons.inj same).1) ?_
    exact schema.properties.keys_nodup.sublist (List.filter_sublist.map _)
  · rintro entry member other single rfl
    exact not_mem_singletons member single

/-- **The groups and the single properties form an ordered partition.** -/
theorem isPartition_assembleGroups :
    schema.IsPartition groups (schema.assembleGroups groups true) where
  once key declared := by
    obtain ⟨property, inSchema, rfl⟩ := exists_property declared
    obtain ⟨entry, inEntries, placed⟩ := exists_entry groups inSchema
    refine countP_eq_one ?_ inEntries (by simpa using placed)
    refine (exclusive_assembleGroups_true registered).imp fun {left right} apart inLeft => ?_
    simpa using apart property.key (by simpa using inLeft)
  declared entry member key listed := by
    rcases List.mem_append.mp ((mem_assembleGroups_true registered).mp member) with group | single
    · exact (schema.declares_iff key).mp (registered.declared entry group key listed)
    · obtain ⟨property, free, rfl⟩ := List.mem_map.mp single
      rw [List.mem_singleton.mp listed]
      exact List.mem_map_of_mem (mem_ungrouped.mp free).1
  members := by
    have distinct : (schema.assembleGroups groups true).Nodup :=
      (ordered_assembleGroups_true registered).imp fun {left right} less same => by
        rw [same] at less
        exact Nat.lt_irrefl _ less
    rw [List.perm_ext_iff_of_nodup distinct (nodup_groups_append_ungrouped registered)]
    exact fun entry => mem_assembleGroups_true registered
  ordered := ordered_assembleGroups_true registered

/-- Without the single properties, the groups stand in the order of their earliest declared keys. -/
theorem ordered_assembleGroups_false :
    (schema.assembleGroups groups false).Pairwise fun left right =>
      earliest schema.keys left.keys < earliest schema.keys right.keys := by
  rw [assembleGroups_false]
  exact (ordered_assembleGroups_true registered).filter _

/-- Without the single properties, each group is left once. -/
theorem assembleGroups_false_perm : (schema.assembleGroups groups false).Perm groups := by
  rw [assembleGroups_false]
  have kept := (isPartition_assembleGroups registered).members.filter
    fun entry => decide (entry ∉ (schema.ungrouped groups).map singleton)
  refine kept.trans ?_
  rw [List.filter_append]
  have groupsKept : groups.filter
      (fun entry => decide (entry ∉ (schema.ungrouped groups).map singleton)) = groups := by
    rw [List.filter_eq_self]
    intro group member
    rw [decide_eq_true_eq]
    exact not_mem_singletons member
  have singlesDropped : ((schema.ungrouped groups).map singleton).filter
      (fun entry => decide (entry ∉ (schema.ungrouped groups).map singleton)) = [] := by
    rw [List.filter_eq_nil_iff]
    intro single member
    simpa using member
  rw [groupsKept, singlesDropped, List.append_nil]

end Schema

/-! ## Extraction -/

namespace Unchecked

/-- The outcomes of registering the groups of a schema, unless a name has a fault. -/
theorem result_inspectGroups (schema : Schema) :
    (inspectGroups (.schema schema)).result =
      match (schema.extension groupsExtension).namesFault? with
      | none => .ok schema.inspectGroups
      | some fault => .error (.ofDisplay fault) := by
  have opened : inspectGroups (.schema schema) =
      (namedTextEntries (schema.extension groupsExtension)).andThen
        fun _ => pure schema.inspectGroups := rfl
  rw [opened, namedTextEntries]
  cases (schema.extension groupsExtension).namesFault? with
  | none => rfl
  | some fault => rfl

/-- Whether single properties are shown: as the settings say if nothing is asked for. -/
def showsSingles (settings : Settings) : Value → Bool
  | .null => settings.includeSingletons
  | choice => choice.isTruthy

/-- The groups of a schema with the notices of those that were not registered. -/
theorem extractGroups_eq (schema : Schema) (settings : Settings) (choice : Value) :
    extractGroups (.schema schema) settings choice =
      match (schema.extension groupsExtension).namesFault? with
      | none =>
        ⟨Notice.ofOutcomes settings.noteDropped .groups schema.inspectGroups,
          .ok (schema.assembleGroups (Outcome.successes schema.inspectGroups)
            (showsSingles settings choice))⟩
      | some fault => .refuse (.ofDisplay fault) := by
  have opened : ∃ included : Option Bool,
      included.getD settings.includeSingletons = showsSingles settings choice ∧
      extractGroups (.schema schema) settings choice =
        (namedTextEntries (schema.extension groupsExtension)).andThen
          fun _ => Attempt.ofNoted (schema.extractGroups settings included) := by
    cases choice <;> exact ⟨_, rfl, rfl⟩
  obtain ⟨included, same, opened⟩ := opened
  rw [opened, namedTextEntries, ← same]
  cases (schema.extension groupsExtension).namesFault? with
  | none => rfl
  | some fault => rfl

section Names

variable {schema : Schema} (settings : Settings) (choice : Value)

theorem result_inspectGroups_of_writable
    (writable : (schema.extension groupsExtension).namesWritable = true) :
    (inspectGroups (.schema schema)).result = .ok schema.inspectGroups := by
  rw [result_inspectGroups, Value.namesFault?_of_writable writable]

theorem result_extractGroups_of_writable
    (writable : (schema.extension groupsExtension).namesWritable = true) :
    (extractGroups (.schema schema) settings choice).result =
      .ok (schema.assembleGroups (Outcome.successes schema.inspectGroups)
        (showsSingles settings choice)) := by
  rw [extractGroups_eq, Value.namesFault?_of_writable writable]

theorem result_extractGroups_of_fault {fault : DisplayFault}
    (unwritable : (schema.extension groupsExtension).namesFault? = some fault) :
    (extractGroups (.schema schema) settings choice).result = .error (.ofDisplay fault) := by
  rw [extractGroups_eq, unwritable]
  rfl

end Names

/-- **The groups of a schema are extracted as an ordered partition of its properties exactly when
the names of its groups can be written.**  Left without the entries of single properties, the
partition holds exactly the registered groups.  When some name cannot be written, registration and
extraction are refused for the first one. -/
theorem extractGroups_partition (schema : Schema) (settings : Settings) :
    ((schema.extension groupsExtension).namesWritable = true →
      ∃ outcomes shown grouped,
        (inspectGroups (.schema schema)).result = .ok outcomes ∧
        (extractGroups (.schema schema) settings (.bool true)).result = .ok shown ∧
        (extractGroups (.schema schema) settings (.bool false)).result = .ok grouped ∧
        schema.IsPartition (Outcome.successes outcomes) shown ∧
        grouped = shown.filter (fun entry =>
          decide (entry ∉ (schema.ungrouped (Outcome.successes outcomes)).map Schema.singleton)) ∧
        grouped.Perm (Outcome.successes outcomes)) ∧
    ((schema.extension groupsExtension).namesWritable = false →
      ∃ fault, (schema.extension groupsExtension).namesFault? = some fault ∧
        (inspectGroups (.schema schema)).result = .error (.ofDisplay fault) ∧
        ∀ choice, (extractGroups (.schema schema) settings choice).result =
          .error (.ofDisplay fault)) := by
  have registered := schema.areRegistered_inspectGroups
  constructor
  · intro writable
    refine ⟨schema.inspectGroups,
      schema.assembleGroups (Outcome.successes schema.inspectGroups) true,
      schema.assembleGroups (Outcome.successes schema.inspectGroups) false, ?_, ?_, ?_,
      Schema.isPartition_assembleGroups registered, Schema.assembleGroups_false _ _,
      Schema.assembleGroups_false_perm registered⟩
    · exact result_inspectGroups_of_writable writable
    · exact result_extractGroups_of_writable settings (.bool true) writable
    · exact result_extractGroups_of_writable settings (.bool false) writable
  · intro unwritable
    obtain ⟨fault, met⟩ := Value.exists_namesFault unwritable
    refine ⟨fault, met, ?_, fun choice => result_extractGroups_of_fault settings choice met⟩
    rw [result_inspectGroups, met]

theorem withinDigitLimit_power : withinDigitLimit (10 ^ digitLimit : Nat) = false := by
  rw [withinDigitLimit, Int.natAbs_natCast, decide_eq_false_iff_not,
    Nat.length_toDigits_le_iff (by decide) (by decide)]
  exact Nat.lt_irrefl _

/-- A text under an integer with one digit too many has no name. -/
theorem nameFault?_power (content : String) :
    Value.nameFault? (.int (10 ^ digitLimit : Nat), .text content) = some .tooLong := by
  have met : (Value.int (10 ^ digitLimit : Nat)).displayFault? =
      if withinDigitLimit (10 ^ digitLimit : Nat) then none else some .tooLong := rfl
  rw [Value.nameFault?, Value.asText?, Option.bind_some, met, withinDigitLimit_power]
  rfl

/-- A group of a declared key under an integer with one digit too many is not extracted. -/
theorem nothing_extracted_under_long_name :
    (extractGroups (.schema ⟨.ofList [⟨"a", none, none, none⟩],
        [(groupsExtension, .map [(.int (10 ^ digitLimit : Nat), .text "Group(a);")])]⟩)
      ⟨true, true⟩ (.bool true)).result = .error (.digits .tooLongToWrite) := by
  rw [← Refusal.ofDisplay]
  apply result_extractGroups_of_fault
  change Value.namesFault? (.map [(.int (10 ^ digitLimit : Nat), .text "Group(a);")]) = _
  rw [Value.namesFault?, List.findSome?_cons, nameFault?_power]

end Unchecked

end FieldRules
