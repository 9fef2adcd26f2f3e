import FieldRules.Proofs.Group.FirstCome
import FieldRules.Proofs.Group.Overlap
import FieldRules.Proofs.Group.Reordering

/-!
# One more group

A schema is compared with one that lists one more text at the end of its groups.
The groups before it are registered as they were, so there is one more outcome.
If the text is not registered, the layout stays as it was.

If it is registered, its keys were in no group, so each had an entry of its own.
The new group stands in the place of the first of these entries, since it has the
same earliest declared key (`earliest_eq_of_first`).  The others are gone.  Every
other entry stays, in the order in which it stood.
-/

set_option autoImplicit false

namespace FieldRules

namespace Schema

variable {schema other : Schema} {groups : List Group} {group : Group}

/-! ## The entries that a group replaces -/

/-- A group takes the place of the first entry with one of its keys.  Each of its keys had an entry
of its own, and these entries are gone. -/
structure ReplacesSingles (schema : Schema) (group : Group) (entries changed : List Group) :
    Prop where
  /-- Every key of the group had its own entry. -/
  singles : ∀ key ∈ group.keys, ∃ property ∈ schema.properties.toList,
    property.key = key ∧ singleton property ∈ entries
  /-- No other entry had a key of the group. -/
  only : ∀ entry ∈ entries, ¬ KeyDisjoint entry group →
    ∃ property ∈ schema.properties.toList, property.key ∈ group.keys ∧ entry = singleton property
  /-- The group stands for the first of them, and the other entries stay. -/
  replaced : ∃ front first back, entries = front ++ first :: back ∧
    (∀ entry ∈ front, KeyDisjoint entry group) ∧ ¬ KeyDisjoint first group ∧
    changed = front ++ group :: back.filter fun entry => KeyDisjoint entry group

theorem AreRegistered.of_append (registered : schema.AreRegistered (groups ++ [group])) :
    schema.AreRegistered groups where
  nonempty entry member := registered.nonempty entry (List.mem_append_left _ member)
  declared entry member := registered.declared entry (List.mem_append_left _ member)
  disjoint := (List.pairwise_append.mp registered.disjoint).1

/-- The properties that one more group leaves alone. -/
theorem ungrouped_append :
    schema.ungrouped (groups ++ [group]) =
      (schema.ungrouped groups).filter fun property => !group.keys.contains property.key := by
  unfold ungrouped
  rw [List.filter_filter]
  refine List.filter_congr fun property _ => ?_
  rw [List.all_append, List.all_cons, List.all_nil, Bool.and_true, Bool.and_comm]

theorem keyDisjoint_singleton {property : Property} :
    KeyDisjoint (singleton property) group ↔ property.key ∉ group.keys := by
  simp [KeyDisjoint, Keyed.keys, singleton]

section OneMore

variable (registered : schema.AreRegistered (groups ++ [group]))
include registered

theorem keyDisjoint_appended : ∀ entry ∈ groups, KeyDisjoint entry group := by
  intro entry member
  exact (List.pairwise_append.mp registered.disjoint).2.2 entry member group List.mem_cons_self

/-- A key of the group that is added was in no group. -/
theorem exists_ungrouped {key : String} (listed : key ∈ group.keys) :
    ∃ property ∈ schema.ungrouped groups, property.key = key := by
  have declared := registered.declared group List.mem_concat_self key listed
  obtain ⟨property, inSchema, rfl⟩ := exists_property ((schema.declares_iff key).mp declared)
  refine ⟨property, mem_ungrouped.mpr ⟨inSchema, ?_⟩, rfl⟩
  intro entry member inEntry
  exact keyDisjoint_appended registered entry member property.key inEntry listed

/-- The entries with a key of the group that is added are those of single properties. -/
theorem eq_singleton_of_shared {entry : Group} (member : entry ∈ schema.assembleGroups groups true)
    (shares : ¬ KeyDisjoint entry group) :
    ∃ property ∈ schema.ungrouped groups, property.key ∈ group.keys ∧
      entry = singleton property := by
  rcases mem_assembleGroups_cases member with isGroup | ⟨property, free, rfl⟩
  · exact absurd (keyDisjoint_appended registered entry isGroup) shares
  · rw [keyDisjoint_singleton, Classical.not_not] at shares
    exact ⟨property, free, shares, rfl⟩

/-- The entries after a group is added: the group, and those with none of its keys. -/
theorem assembleGroups_append_perm :
    (schema.assembleGroups (groups ++ [group]) true).Perm
      (group :: (schema.assembleGroups groups true).filter
        fun entry => KeyDisjoint entry group) := by
  have before := registered.of_append
  have kept : (groups ++ (schema.ungrouped groups).map singleton).filter
        (fun entry => KeyDisjoint entry group) =
      groups ++ (schema.ungrouped (groups ++ [group])).map singleton := by
    rw [List.filter_append, ungrouped_append, List.filter_map]
    congr 1
    · rw [List.filter_eq_self]
      intro entry member
      exact decide_eq_true (keyDisjoint_appended registered entry member)
    · congr 2
      funext property
      simp [keyDisjoint_singleton]
  calc (schema.assembleGroups (groups ++ [group]) true).Perm
        ((groups ++ [group]) ++ (schema.ungrouped (groups ++ [group])).map singleton) :=
        (isPartition_assembleGroups registered).members
    _ = groups ++ group :: (schema.ungrouped (groups ++ [group])).map singleton := by
        rw [List.append_assoc, List.singleton_append]
    List.Perm _ (group :: (groups ++ (schema.ungrouped (groups ++ [group])).map singleton)) :=
        List.perm_middle
    List.Perm _ (group :: (schema.assembleGroups groups true).filter
        fun entry => KeyDisjoint entry group) := by
        rw [← kept]
        exact ((isPartition_assembleGroups before).members.symm.filter _).cons group

/-- The first entry with a key of the group has the group's earliest declared key. -/
theorem earliest_eq_of_first {front back : List Group} {first : Group}
    (split : schema.assembleGroups groups true = front ++ first :: back)
    (apart : ∀ entry ∈ front, KeyDisjoint entry group) (shares : ¬ KeyDisjoint first group) :
    earliest schema.keys group.keys = earliest schema.keys first.keys := by
  have before := registered.of_append
  have ordered := ordered_assembleGroups_true before
  have inEntries : first ∈ schema.assembleGroups groups true := by
    rw [split]
    exact List.mem_append_right _ List.mem_cons_self
  obtain ⟨property, free, listed, rfl⟩ := eq_singleton_of_shared registered inEntries shares
  have declared : property.key ∈ schema.keys := List.mem_map_of_mem (mem_ungrouped.mp free).1
  apply Nat.le_antisymm
  · apply earliest_le_of_subset
    intro key inFirst
    rw [List.mem_singleton.mp inFirst]
    exact listed
  · obtain ⟨key, inGroup, -, place⟩ := exists_earliest ⟨property.key, listed, declared⟩
    obtain ⟨other, otherFree, rfl⟩ := exists_ungrouped registered inGroup
    have member := singleton_mem_assembleGroups otherFree
    rw [split] at member ordered
    -- The entry of this key does not come before the first one.
    rcases List.mem_append.mp member with inFront | later
    · exact absurd inGroup (keyDisjoint_singleton.mp (apart _ inFront))
    · rcases List.mem_cons.mp later with same | inBack
      · rw [← same]
        exact place
      · have behind := (List.pairwise_cons.mp (List.pairwise_append.mp ordered).2.1).1 _ inBack
        exact Nat.le_trans (Nat.le_of_lt behind) place

/-- Some entry with a key of the group that is added comes first. -/
theorem exists_first_shared :
    ∃ front first back, schema.assembleGroups groups true = front ++ first :: back ∧
      (∀ entry ∈ front, KeyDisjoint entry group) ∧ ¬ KeyDisjoint first group := by
  have nonempty := registered.nonempty group List.mem_concat_self
  obtain ⟨key, listed⟩ := List.exists_mem_of_ne_nil _ nonempty
  obtain ⟨property, free, rfl⟩ := exists_ungrouped registered listed
  have member := singleton_mem_assembleGroups free
  have shares : ¬ KeyDisjoint (singleton property) group := by
    intro apart
    exact keyDisjoint_singleton.mp apart listed
  obtain ⟨first, found⟩ : ∃ first, (schema.assembleGroups groups true).find?
      (fun entry => decide (¬ KeyDisjoint entry group)) = some first := by
    rw [← Option.isSome_iff_exists, List.find?_isSome]
    exact ⟨_, member, decide_eq_true shares⟩
  obtain ⟨firstShares, front, back, split, apart⟩ := List.find?_eq_some_iff_append.mp found
  refine ⟨front, first, back, split, ?_, of_decide_eq_true firstShares⟩
  intro entry inFront
  simpa using apart entry inFront

/-- With the group in the place of the first entry, the order of the entries is kept. -/
theorem ordered_replaced {front back : List Group} {first : Group}
    (split : schema.assembleGroups groups true = front ++ first :: back)
    (apart : ∀ entry ∈ front, KeyDisjoint entry group) (shares : ¬ KeyDisjoint first group) :
    (front ++ group :: back).Pairwise fun left right =>
      earliest schema.keys left.keys < earliest schema.keys right.keys := by
  have same := earliest_eq_of_first registered split apart shares
  have before := registered.of_append
  have ordered := ordered_assembleGroups_true before
  rw [split] at ordered
  simp only [List.pairwise_append, List.pairwise_cons, List.forall_mem_cons, same] at ordered ⊢
  exact ordered

/-- A group that is added stands in the place of the first entry with one of its keys. -/
theorem replacesSingles_append :
    schema.ReplacesSingles group (schema.assembleGroups groups true)
      (schema.assembleGroups (groups ++ [group]) true) where
  singles key listed := by
    obtain ⟨property, free, same⟩ := exists_ungrouped registered listed
    exact ⟨property, (mem_ungrouped.mp free).1, same, singleton_mem_assembleGroups free⟩
  only entry member shares := by
    obtain ⟨property, free, listed, same⟩ := eq_singleton_of_shared registered member shares
    exact ⟨property, (mem_ungrouped.mp free).1, listed, same⟩
  replaced := by
    obtain ⟨front, first, back, split, apart, shares⟩ := exists_first_shared registered
    refine ⟨front, first, back, split, apart, shares, ?_⟩
    have members := assembleGroups_append_perm registered
    have frontKept : front.filter (fun entry => KeyDisjoint entry group) = front := by
      rw [List.filter_eq_self]
      intro entry inFront
      exact decide_eq_true (apart entry inFront)
    rw [split, List.filter_append, frontKept,
      List.filter_cons_of_neg (by simpa using shares)] at members
    have kept : (front ++ group :: back.filter fun entry => KeyDisjoint entry group).Sublist
        (front ++ group :: back) := (List.filter_sublist.cons_cons group).append_left front
    exact eq_of_ordered (members.trans List.perm_middle.symm)
      (ordered_assembleGroups_true registered)
      ((ordered_replaced registered split apart shares).sublist kept)

/-- Without single properties, a group that is added is put between two of the others. -/
theorem inserted_append :
    ∃ front back, schema.assembleGroups groups false = front ++ back ∧
      schema.assembleGroups (groups ++ [group]) false = front ++ group :: back := by
  have before := registered.of_append
  have members := assembleGroups_false_perm registered
  have ordered := ordered_assembleGroups_false registered
  obtain ⟨front, back, split⟩ := List.append_of_mem (members.mem_iff.mpr List.mem_concat_self)
  rw [split] at members ordered
  have others : (front ++ back).Perm groups := by
    have swapped := (List.perm_middle.symm.trans members).trans (List.perm_append_singleton _ _)
    exact swapped.cons_inv
  have kept : (front ++ back).Sublist (front ++ group :: back) :=
    (List.sublist_cons_self group back).append_left front
  refine ⟨front, back, ?_, split⟩
  exact eq_of_ordered ((assembleGroups_false_perm before).trans others.symm)
    (ordered_assembleGroups_false before) (ordered.sublist kept)

end OneMore

/-! ## Registration -/

/-- Two schemas of which the other lists one more text at the end of its groups. -/
structure AppendsGroup (schema other : Schema) (key : Value) (text : String) : Prop where
  properties : other.properties = schema.properties
  entries : ∃ listed, schema.extension groupsExtension = .map listed ∧
    other.extension groupsExtension = .map (listed ++ [(key, .text text)])

variable {key : Value} {text : String}

theorem AppendsGroup.groupTexts (appends : schema.AppendsGroup other key text) :
    other.groupTexts = schema.groupTexts ++ [(key.display, text)] := by
  obtain ⟨listed, here, there⟩ := appends.entries
  rw [Schema.groupTexts, Schema.groupTexts, here, there, Value.namedTextEntries,
    Value.namedTextEntries, List.filterMap_append]
  rfl

/-- The names that were there before are still written. -/
theorem AppendsGroup.namesWritable (appends : schema.AppendsGroup other key text)
    (writable : (other.extension groupsExtension).namesWritable = true) :
    (schema.extension groupsExtension).namesWritable = true := by
  obtain ⟨listed, here, there⟩ := appends.entries
  rw [there, Value.namesWritable_map, List.all_append, Bool.and_eq_true] at writable
  rw [here, Value.namesWritable_map]
  exact writable.1

/-- The text at the end adds one outcome. -/
theorem AppendsGroup.exists_outcome (appends : schema.AppendsGroup other key text) :
    ∃ outcome, other.inspectGroups = schema.inspectGroups ++ [outcome] := by
  rw [inspectGroups, appends.groupTexts, registerGroups_congr appends.properties, inspectGroups]
  exact ⟨_, registerFrom_append schema [] schema.groupTexts [(key.display, text)]⟩

/-- How entries change by one more outcome: only if it is a group, and then in one place. -/
structure ChangesLocally (schema : Schema) (outcome : Outcome Group) (includeSingletons : Bool)
    (entries changed : List Group) : Prop where
  /-- A text that is not registered changes nothing. -/
  unregistered : ∀ failure, outcome.result = .error failure → changed = entries
  /-- With single properties, a group replaces the entries of its keys. -/
  replaced : ∀ group, outcome.result = .ok group → includeSingletons = true →
    schema.ReplacesSingles group entries changed
  /-- Without single properties, a group is put between two entries. -/
  inserted : ∀ group, outcome.result = .ok group → includeSingletons = false →
    ∃ front back, entries = front ++ back ∧ changed = front ++ group :: back

theorem AppendsGroup.changesLocally (appends : schema.AppendsGroup other key text)
    {outcome : Outcome Group} (run : other.inspectGroups = schema.inspectGroups ++ [outcome])
    (includeSingletons : Bool) :
    schema.ChangesLocally outcome includeSingletons
      (schema.assembleGroups (Outcome.successes schema.inspectGroups) includeSingletons)
      (other.assembleGroups (Outcome.successes other.inspectGroups) includeSingletons) := by
  have registered := (registerFrom_spec schema [] other.groupTexts).1
  rw [show schema.registerFrom [] other.groupTexts = other.inspectGroups from
    (registerGroups_congr appends.properties other.groupTexts).symm, run] at registered
  rw [assembleGroups_congr appends.properties, run]
  cases result : outcome.result with
  | error failure =>
    have nothing : Outcome.successes (schema.inspectGroups ++ [outcome]) =
        Outcome.successes schema.inspectGroups := by
      simp [Outcome.successes, Outcome.value?, result, Except.toOption]
    rw [nothing]
    exact ⟨fun _ _ => rfl, fun group isGroup => absurd isGroup (by simp [result]),
      fun group isGroup => absurd isGroup (by simp [result])⟩
  | ok group =>
    have last : Outcome.successes (schema.inspectGroups ++ [outcome]) =
        Outcome.successes schema.inspectGroups ++ [group] := by
      simp [Outcome.successes, Outcome.value?, result, Except.toOption]
    rw [last] at registered ⊢
    refine ⟨fun failure failed => absurd failed (by simp [result]), ?_, ?_⟩
    · intro added isGroup shown
      obtain rfl := Except.ok.inj (result.symm.trans isGroup)
      rw [shown]
      exact replacesSingles_append registered
    · intro added isGroup omitted
      obtain rfl := Except.ok.inj (result.symm.trans isGroup)
      rw [omitted]
      exact inserted_append registered

end Schema

/-! ## Extraction -/

namespace Unchecked

/-- **One more text at the end of the groups changes the layout in one place.**  If the names of the
groups can be written, a text that is not registered changes nothing, and a group takes the place of
the entries of its keys.  Otherwise the longer schema is refused for the first name that cannot be
written. -/
theorem extractGroups_appended {schema other : Schema} {key : Value} {text : String}
    (appends : schema.AppendsGroup other key text) :
    ((other.extension groupsExtension).namesWritable = true →
      ∃ outcomes outcome,
        (inspectGroups (.schema schema)).result = .ok outcomes ∧
        (inspectGroups (.schema other)).result = .ok (outcomes ++ [outcome]) ∧
        ∀ settings choice, ∃ entries changed,
          (extractGroups (.schema schema) settings choice).result = .ok entries ∧
          (extractGroups (.schema other) settings choice).result = .ok changed ∧
          schema.ChangesLocally outcome (showsSingles settings choice) entries changed) ∧
    ((other.extension groupsExtension).namesWritable = false →
      ∃ fault, (other.extension groupsExtension).namesFault? = some fault ∧
        ∀ settings choice, (extractGroups (.schema other) settings choice).result =
          .error (.ofDisplay fault)) := by
  constructor
  · intro writable
    have before := appends.namesWritable writable
    obtain ⟨outcome, run⟩ := appends.exists_outcome
    refine ⟨schema.inspectGroups, outcome, ?_, ?_, ?_⟩
    · exact result_inspectGroups_of_writable before
    · rw [result_inspectGroups_of_writable writable, run]
    · intro settings choice
      exact ⟨_, _, result_extractGroups_of_writable settings choice before,
        result_extractGroups_of_writable settings choice writable,
        appends.changesLocally run (showsSingles settings choice)⟩
  · intro unwritable
    obtain ⟨fault, met⟩ := Value.exists_namesFault unwritable
    exact ⟨fault, met, fun settings choice => result_extractGroups_of_fault settings choice met⟩

theorem grouping_appendsGroup (entries : List (Value × Value)) (key : Value) (text : String) :
    (grouping entries).AppendsGroup (grouping (entries ++ [(key, .text text)])) key text :=
  ⟨rfl, entries, rfl, rfl⟩

/-- A group with a repeated key takes the place of two single properties. -/
theorem layout_with_one_more_group :
    ∃ entries changed,
      (extractGroups (.schema (grouping [(.text "known", .text "Group(b);")]))
        ⟨true, true⟩ (.bool true)).result = .ok entries ∧
      (extractGroups (.schema (grouping [(.text "known", .text "Group(b);"),
        (.text "more", .text "Group(c, a, c);")])) ⟨true, true⟩ (.bool true)).result =
          .ok changed ∧
      (grouping [(.text "known", .text "Group(b);")]).ReplacesSingles
        ⟨"more", ["c", "a", "c"]⟩ entries changed := by
  obtain ⟨outcomes, outcome, -, run, layouts⟩ := (extractGroups_appended
    (grouping_appendsGroup [(.text "known", .text "Group(b);")] (.text "more")
      "Group(c, a, c);")).1 (by decide)
  obtain ⟨entries, changed, before, after, changes⟩ := layouts ⟨true, true⟩ (.bool true)
  refine ⟨entries, changed, before, after, changes.replaced _ ?_ rfl⟩
  -- The last outcome is that of the text that is added.
  have last := congrArg (fun result => result.toOption.bind List.getLast?) run
  have same := congrArg (Option.map Outcome.result) (last.trans List.getLast?_concat)
  exact (Option.some.inj same).symm

/-- A text that is no group leaves no list if its name cannot be written. -/
theorem no_layout_with_one_more_text :
    ∃ schema other key text, Schema.AppendsGroup schema other key text ∧
      (∀ name, (Group.read other name text).value? = none) ∧
      (extractGroups (.schema schema) ⟨true, true⟩ (.bool false)).result =
        .ok [⟨"known", ["a"]⟩] ∧
      ∀ choice entries,
        (extractGroups (.schema other) ⟨true, true⟩ choice).result ≠ .ok entries := by
  refine ⟨_, _, _, "Group(ghost);", grouping_appendsGroup [(.text "known", .text "Group(a);")]
    (overlong "Group(ghost);").1 _, fun name => rfl, rfl, ?_⟩
  intro choice entries extracted
  have listed : overlong "Group(ghost);" ∈
      [(.text "known", .text "Group(a);"), overlong "Group(ghost);"] :=
    List.mem_cons_of_mem _ List.mem_cons_self
  obtain ⟨fault, refused⟩ := refused_of_overlong listed ⟨true, true⟩ choice
  exact nomatch extracted.symm.trans refused

end Unchecked

end FieldRules
