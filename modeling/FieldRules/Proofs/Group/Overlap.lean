import FieldRules.Proofs.Group.Partition
import FieldRules.Proofs.Rule.WrittenAgain

/-!
# Groups that overlap

The groups that are laid out need not come from a registration.  A caller may
pass any groups: they may share keys, occur again, or list undeclared keys.  A
group is placed whole, so a key of several groups can be in several entries.  The
layout checks only the property at which it stands: no entry before lists its key
(`Schema.EachLeads`).

So no entry occurs twice, and entries that share a key are different groups of
the caller (`Schema.pairwise_shared`).  Nothing is lost either: a declared key in
some group is in an entry that is a group, and every other declared key is in one
entry, its own (`Schema.losesNothing_assembleGroups`).

The walk reads nothing of a group but its keys, so what holds of groups holds of
the groups that are passed (`Unchecked.result_assembleGroups`).
-/

set_option autoImplicit false

namespace FieldRules

/-! ## Entries that lead -/

namespace Schema

/-- Each entry lists a declared key that no entry before it lists. -/
def EachLeads (schema : Schema) (entries : List Group) : Prop :=
  ∀ (front : List Group) (entry : Group) (back : List Group), entries = front ++ entry :: back →
    ∃ key ∈ schema.keys, key ∈ entry.keys ∧ ∀ other ∈ front, key ∉ other.keys

variable {schema : Schema} {groups entries part : List Group}

/-- Leaving out entries keeps the others leading. -/
theorem EachLeads.sublist (leads : schema.EachLeads entries) (kept : part.Sublist entries) :
    schema.EachLeads part := by
  rintro front entry back rfl
  obtain ⟨first, rest, rfl, frontKept, restKept⟩ := List.append_sublist_iff.mp kept
  obtain ⟨middle, last, rfl, member, -⟩ := List.cons_sublist_iff.mp restKept
  obtain ⟨before, behind, rfl⟩ := List.append_of_mem member
  obtain ⟨key, declared, listed, later⟩ := leads (first ++ before) entry (behind ++ last) (by simp)
  refine ⟨key, declared, listed, fun other inFront => ?_⟩
  exact later other (List.mem_append_left _ (frontKept.subset inFront))

/-- Of two entries, the later one lists a declared key that the earlier one does not list. -/
theorem EachLeads.pairwise (leads : schema.EachLeads entries) :
    entries.Pairwise fun left right => ∃ key ∈ right.keys, key ∈ schema.keys ∧ key ∉ left.keys := by
  rw [List.pairwise_iff_forall_sublist]
  intro left right kept
  obtain ⟨key, declared, listed, later⟩ := leads.sublist kept [left] right [] rfl
  exact ⟨key, listed, declared, later left List.mem_cons_self⟩

theorem EachLeads.nodup (leads : schema.EachLeads entries) : entries.Nodup := by
  refine leads.pairwise.imp ?_
  rintro left right ⟨key, listed, -, unlisted⟩ rfl
  exact unlisted listed

/-! ## The entries of any groups -/

theorem eachLeads_assembleGroups (schema : Schema) (groups : List Group) :
    schema.EachLeads (schema.assembleGroups groups true) := by
  intro front entry back split
  rw [assembleGroups_true] at split
  obtain ⟨before, rest, layout, rfl, others⟩ := List.map_eq_append_iff.mp split
  obtain ⟨placement, behind, rfl, rfl, rfl⟩ := List.map_eq_cons_iff.mp others
  obtain ⟨property, member, same, -, later⟩ := exists_lead layout
  refine ⟨property.key, List.mem_map_of_mem member, ?_, ?_⟩
  · rw [Placement.keys_entry, same]
    exact key_mem_placementAt groups property
  · intro other inFront
    obtain ⟨earlier, inLayout, rfl⟩ := List.mem_map.mp inFront
    rw [Placement.keys_entry]
    exact later earlier inLayout

/-- An entry with a key of some group is itself a group. -/
theorem mem_groups_of_shared_key {entry group : Group}
    (member : entry ∈ schema.assembleGroups groups true) (inGroups : group ∈ groups) {key : String}
    (inEntry : key ∈ entry.keys) (inGroup : key ∈ group.keys) : entry ∈ groups := by
  rcases mem_assembleGroups_cases member with isGroup | ⟨property, free, rfl⟩
  · exact isGroup
  · rw [List.mem_singleton.mp inEntry] at inGroup
    exact absurd inGroup ((mem_ungrouped.mp free).2 group inGroups)

/-- Two entries that share a key are two different groups. -/
theorem pairwise_shared (schema : Schema) (groups : List Group) :
    (schema.assembleGroups groups true).Pairwise fun left right =>
      ¬ KeyDisjoint left right → left ∈ groups ∧ right ∈ groups ∧ left ≠ right := by
  refine (eachLeads_assembleGroups schema groups).pairwise.imp_of_mem ?_
  rintro left right inLeft inRight ⟨lead, leads, -, unlisted⟩ overlap
  obtain ⟨key, listed, shared⟩ : ∃ key ∈ left.keys, key ∈ right.keys := by
    simpa [KeyDisjoint, Keyed.keys] using overlap
  have different : left ≠ right := by
    rintro rfl
    exact unlisted leads
  rcases mem_assembleGroups_cases inLeft with leftGroup | ⟨property, -, rfl⟩
  · exact ⟨leftGroup, mem_groups_of_shared_key inRight leftGroup shared listed, different⟩
  · rcases mem_assembleGroups_cases inRight with rightGroup | ⟨other, -, rfl⟩
    · have leftGroup := mem_groups_of_shared_key inLeft rightGroup listed shared
      exact ⟨leftGroup, rightGroup, different⟩
    · -- Both entries list one key only, so the later one would not lead.
      have sameKey := (List.mem_singleton.mp listed).symm.trans (List.mem_singleton.mp shared)
      rw [List.mem_singleton.mp leads, ← sameKey] at unlisted
      exact absurd List.mem_cons_self unlisted

/-- Entries of which two share a key only where two different groups share it. -/
structure SharesAsGroups (schema : Schema) (groups entries : List Group) : Prop where
  /-- A key that no two different groups list is in one entry at most. -/
  unshared : ∀ key, (∀ left ∈ groups, ∀ right ∈ groups,
      key ∈ left.keys → key ∈ right.keys → left = right) →
    (entries.countP fun entry => entry.keys.contains key) ≤ 1
  /-- Two entries with a key in common are different groups. -/
  shared : entries.Pairwise fun left right =>
    ¬ KeyDisjoint left right → left ∈ groups ∧ right ∈ groups ∧ left ≠ right
  /-- Each entry lists a declared key that no entry before it lists. -/
  leads : schema.EachLeads entries

theorem sharesAsGroups_assembleGroups (schema : Schema) (groups : List Group)
    (includeSingletons : Bool) :
    schema.SharesAsGroups groups (schema.assembleGroups groups includeSingletons) := by
  have kept := assembleGroups_sublist schema groups includeSingletons
  have shared := (pairwise_shared schema groups).sublist kept
  refine ⟨fun key alike => countP_le_one (shared.imp ?_), shared,
    (eachLeads_assembleGroups schema groups).sublist kept⟩
  intro left right both inLeft
  -- Otherwise both entries are groups with the key, and different.
  by_contra inRight
  have listed : key ∈ left.keys := by simpa using inLeft
  have listedAgain : key ∈ right.keys := by simpa using inRight
  obtain ⟨leftGroup, rightGroup, different⟩ := both fun apart => apart key listed listedAgain
  exact different (alike left leftGroup right rightGroup listed listedAgain)

/-! ## Nothing is lost -/

/-- What is assembled with and without single properties holds every declared key of the groups, and
all other declared keys, once each, if single properties are included. -/
structure LosesNothing (schema : Schema) (groups shown grouped : List Group) : Prop where
  /-- A declared key of a group is in an entry that is a group. -/
  covered : ∀ group ∈ groups, ∀ key ∈ group.keys, key ∈ schema.keys →
    ∃ entry ∈ grouped, entry ∈ groups ∧ key ∈ entry.keys
  /-- No entry occurs twice. -/
  once : shown.Nodup ∧ grouped.Nodup
  /-- An entry lists a declared key. -/
  declared : ∀ entry ∈ shown, ∃ key ∈ entry.keys, key ∈ schema.keys
  /-- A property in no group has its own entry once, and no other entry lists it. -/
  single : ∀ property ∈ schema.ungrouped groups, shown.count (singleton property) = 1 ∧
    ∀ entry ∈ shown, property.key ∈ entry.keys → entry = singleton property
  /-- A key of a group is in no entry but groups. -/
  ofGroups : ∀ group ∈ groups, ∀ key ∈ group.keys, ∀ entry ∈ shown,
    key ∈ entry.keys → entry ∈ groups
  /-- Without single properties, only their entries are missing. -/
  without : grouped = shown.filter fun entry =>
    decide (entry ∉ (schema.ungrouped groups).map singleton)
  /-- Without single properties, every entry is a group. -/
  onlyGroups : ∀ entry ∈ grouped, entry ∈ groups

theorem mem_assembleGroups_false_iff {entry : Group} :
    entry ∈ schema.assembleGroups groups false ↔
      entry ∈ schema.assembleGroups groups true ∧ entry ∈ groups := by
  rw [assembleGroups_false, List.mem_filter, decide_eq_true_eq]
  refine and_congr_right fun member => ⟨fun notSingle => ?_, not_mem_singletons⟩
  rcases mem_assembleGroups_cases member with isGroup | ⟨property, free, rfl⟩
  · exact isGroup
  · exact absurd (List.mem_map_of_mem free) notSingle

/-- The own entry of a property in no group is the only one with its key. -/
theorem eq_singleton_of_mem {property : Property} (free : property ∈ schema.ungrouped groups)
    {entry : Group} (member : entry ∈ schema.assembleGroups groups true)
    (listed : property.key ∈ entry.keys) : entry = singleton property := by
  obtain ⟨inSchema, unlisted⟩ := mem_ungrouped.mp free
  rcases mem_assembleGroups_cases member with isGroup | ⟨other, otherFree, rfl⟩
  · exact absurd listed (unlisted entry isGroup)
  · have same := List.mem_singleton.mp listed
    rw [eq_of_same_key inSchema (mem_ungrouped.mp otherFree).1 same]

theorem losesNothing_assembleGroups (schema : Schema) (groups : List Group) :
    schema.LosesNothing groups (schema.assembleGroups groups true)
      (schema.assembleGroups groups false) where
  covered group member key listed declared := by
    obtain ⟨property, inSchema, rfl⟩ := exists_property declared
    obtain ⟨entry, shown, placed⟩ := exists_entry groups inSchema
    have isGroup := mem_groups_of_shared_key shown member placed listed
    exact ⟨entry, mem_assembleGroups_false_iff.mpr ⟨shown, isGroup⟩, isGroup, placed⟩
  once := by
    have nodup := (eachLeads_assembleGroups schema groups).nodup
    exact ⟨nodup, nodup.sublist (assembleGroups_sublist schema groups false)⟩
  declared entry member := by
    obtain ⟨front, back, split⟩ := List.append_of_mem member
    have leads := eachLeads_assembleGroups schema groups
    obtain ⟨key, declared, listed, -⟩ := leads front entry back split
    exact ⟨key, listed, declared⟩
  single property free := by
    have nodup := (eachLeads_assembleGroups schema groups).nodup
    exact ⟨List.count_eq_one_of_mem nodup (singleton_mem_assembleGroups free),
      fun entry member listed => eq_singleton_of_mem free member listed⟩
  ofGroups group inGroups key listed entry member inEntry :=
    mem_groups_of_shared_key member inGroups inEntry listed
  without := assembleGroups_false schema groups
  onlyGroups entry member := (mem_assembleGroups_false_iff.mp member).2

end Schema

/-! ## Dependencies as they are passed -/

/-- Whether a dependency is a list of keys, as choices and groups are. -/
def Dependency.isList : Dependency → Bool
  | .requires _ => false
  | .onlyOne _ | .group _ => true

namespace Unchecked

/-- Dependencies as they are passed. -/
def passed (rules : List Dependency) : List Draft := rules.map Dependency.toDraft

/-- Groups as they are passed. -/
def asDrafts (groups : List Group) : List Draft :=
  groups.map fun group => (Dependency.group group).toDraft

theorem asDrafts_eq_passed (groups : List Group) :
    asDrafts groups = passed (groups.map Dependency.group) := by
  rw [passed, List.map_map]
  rfl

section Lists

variable {rule : Dependency} {rules : List Dependency}

theorem listedKeys?_toDraft (isList : rule.isList = true) :
    listedKeys? rule.toDraft = some (rule.keys.map Value.text) := by
  cases rule with
  | requires rule => exact absurd isList (by simp [Dependency.isList])
  | onlyOne rule => rfl
  | group rule => rfl

theorem keys_toDraft (isList : rule.isList = true) : Keyed.keys rule.toDraft = rule.keys := by
  have opened : Keyed.keys rule.toDraft =
      ((listedKeys? rule.toDraft).getD []).filterMap Value.asText? := rfl
  rw [opened, listedKeys?_toDraft isList, Option.getD_some, List.filterMap_map]
  exact List.filterMap_some

theorem listsTexts_toDraft (isList : rule.isList = true) : listsTexts rule.toDraft = true := by
  rw [listsTexts, listedKeys?_toDraft isList, Option.getD_some, List.all_map, List.all_eq_true]
  exact fun key _ => rfl

theorem checkListed_toDraft (isList : rule.isList = true) :
    checkListed rule.toDraft = pure () := by
  have hashable : (rule.keys.map Value.text).findSome? Value.unhashableKind? = none := by
    simp [Value.unhashableKind?]
  simp only [checkListed, listedKeys?_toDraft isList, hashable]

theorem checkAllListed_passed (lists : ∀ rule ∈ rules, rule.isList = true) :
    checkAllListed (passed rules) = pure () := by
  induction rules with
  | nil => rfl
  | cons rule rules ih =>
    rw [List.forall_mem_cons] at lists
    have opened : checkAllListed (passed (rule :: rules)) =
        (checkListed rule.toDraft).andThen fun _ => checkAllListed (passed rules) := rfl
    rw [opened, checkListed_toDraft lists.1, ih lists.2]
    rfl

end Lists

theorem isList_of_mem_groups {groups : List Group} :
    ∀ rule ∈ groups.map Dependency.group, rule.isList = true := by
  simp [Dependency.isList]

/-! ## The operation -/

theorem result_assembleGroups (schema : Schema) (groups : List Group)
    (includeSingletons : Bool) :
    (assembleGroups (.schema schema) (asDrafts groups) includeSingletons).result =
      .ok (asDrafts (schema.assembleGroups groups includeSingletons)) := by
  have opened : assembleGroups (.schema schema) (asDrafts groups) includeSingletons =
      (checkAllListed (asDrafts groups)).andThen fun _ =>
        pure (schema.assemble (asDrafts groups) fun property =>
          if includeSingletons then some (singletonDraft property) else none) := rfl
  have single : (fun property => if includeSingletons then some (singletonDraft property)
      else none) = fun property => (if includeSingletons then some (Schema.singleton property)
        else none).map fun group => (Dependency.group group).toDraft := by
    funext property
    cases includeSingletons <;> rfl
  have checked : checkAllListed (asDrafts groups) = pure () := by
    rw [asDrafts_eq_passed]
    exact checkAllListed_passed isList_of_mem_groups
  have keys (group : Group) : Keyed.keys (Dependency.group group).toDraft = group.keys :=
    keys_toDraft rfl
  rw [opened, checked, single, asDrafts, Schema.assemble_map keys]
  rfl

/-- **Entries share a key only where different groups of the caller share it.** -/
theorem assembled_share_as_groups (schema : Schema) (groups : List Group)
    (includeSingletons : Bool) :
    ∃ entries, (assembleGroups (.schema schema) (asDrafts groups) includeSingletons).result =
        .ok (asDrafts entries) ∧ schema.SharesAsGroups groups entries :=
  ⟨_, result_assembleGroups schema groups includeSingletons,
    schema.sharesAsGroups_assembleGroups groups includeSingletons⟩

/-- A declared key that two groups share can be in the entries of both. -/
theorem shared_key_in_two_entries :
    ∃ entries,
      (assembleGroups
          (.schema ⟨.ofList [⟨"a", none, none, none⟩, ⟨"b", none, none, none⟩,
            ⟨"c", none, none, none⟩], []⟩)
          (asDrafts [⟨"left", ["a", "b"]⟩, ⟨"right", ["b", "c"]⟩]) false).result =
        .ok (asDrafts entries) ∧
      "b" ∈ Schema.keys ⟨.ofList [⟨"a", none, none, none⟩, ⟨"b", none, none, none⟩,
        ⟨"c", none, none, none⟩], []⟩ ∧
      (entries.countP fun entry => entry.keys.contains "b") = 2 :=
  ⟨[⟨"left", ["a", "b"]⟩, ⟨"right", ["b", "c"]⟩], rfl, by decide, by decide⟩

/-- **Nothing is lost in the layout of any groups.** -/
theorem assembled_lose_nothing (schema : Schema) (groups : List Group) :
    ∃ shown grouped,
      (assembleGroups (.schema schema) (asDrafts groups) true).result = .ok (asDrafts shown) ∧
      (assembleGroups (.schema schema) (asDrafts groups) false).result = .ok (asDrafts grouped) ∧
      schema.LosesNothing groups shown grouped :=
  ⟨_, _, result_assembleGroups schema groups true, result_assembleGroups schema groups false,
    schema.losesNothing_assembleGroups groups⟩

end Unchecked

end FieldRules
