import FieldRules.Proofs.Group.Partition

/-!
# The order in which groups are listed

Registration depends on the order of the groups: of two that share a key, the
first one owns it.  When no two groups that are read share a key, all of them
are registered in any order.

The layout of registered groups does not depend on their order.  Its entries are
the same in any order, and they stand in the order of their earliest declared
keys, which no two of them share (`eq_of_ordered`).
-/

set_option autoImplicit false

namespace FieldRules

namespace Schema

variable {schema other : Schema} {groups permuted : List Group}

/-! ## The layout -/

/-- Entries in the order of their earliest declared keys are known from the entries that occur. -/
theorem eq_of_ordered {left right : List Group} (members : left.Perm right)
    (leftOrdered : left.Pairwise fun first second =>
      earliest schema.keys first.keys < earliest schema.keys second.keys)
    (rightOrdered : right.Pairwise fun first second =>
      earliest schema.keys first.keys < earliest schema.keys second.keys) : left = right :=
  List.Perm.eq_of_pairwise (fun _ _ _ _ before behind => absurd before (Nat.lt_asymm behind))
    leftOrdered rightOrdered members

theorem AreRegistered.perm (registered : schema.AreRegistered groups)
    (reordered : groups.Perm permuted) : schema.AreRegistered permuted where
  nonempty group member := registered.nonempty group (reordered.mem_iff.mpr member)
  declared group member := registered.declared group (reordered.mem_iff.mpr member)
  disjoint := (reordered.pairwise_iff KeyDisjoint.symm).mp registered.disjoint

theorem ungrouped_perm (reordered : groups.Perm permuted) :
    schema.ungrouped permuted = schema.ungrouped groups := by
  refine List.filter_congr fun property _ => ?_
  exact reordered.symm.all_eq

/-- The layout of registered groups does not depend on their order. -/
theorem assembleGroups_perm (registered : schema.AreRegistered groups)
    (reordered : groups.Perm permuted) (includeSingletons : Bool) :
    schema.assembleGroups permuted includeSingletons =
      schema.assembleGroups groups includeSingletons := by
  have again := registered.perm reordered
  have shown : schema.assembleGroups permuted true = schema.assembleGroups groups true := by
    have members := (isPartition_assembleGroups again).members
    rw [ungrouped_perm reordered] at members
    refine eq_of_ordered ?_ (ordered_assembleGroups_true again)
      (ordered_assembleGroups_true registered)
    calc (schema.assembleGroups permuted true).Perm
          (permuted ++ (schema.ungrouped groups).map singleton) := members
      List.Perm _ (groups ++ (schema.ungrouped groups).map singleton) :=
        reordered.symm.append_right _
      List.Perm _ (schema.assembleGroups groups true) :=
        (isPartition_assembleGroups registered).members.symm
  cases includeSingletons with
  | true => exact shown
  | false => rw [assembleGroups_false, assembleGroups_false, shown, ungrouped_perm reordered]

/-! ## Registration -/

/-- Two schemas that differ at most in the order in which they list their groups. -/
structure ReordersGroups (schema other : Schema) : Prop where
  properties : other.properties = schema.properties
  entries : ∃ listed permuted, schema.extension groupsExtension = .map listed ∧
    other.extension groupsExtension = .map permuted ∧ listed.Perm permuted

theorem ReordersGroups.groupTexts (reorders : schema.ReordersGroups other) :
    schema.groupTexts.Perm other.groupTexts := by
  obtain ⟨listed, permuted, here, there, reordered⟩ := reorders.entries
  rw [Schema.groupTexts, Schema.groupTexts, here, there]
  exact reordered.filterMap _

theorem ReordersGroups.namesWritable (reorders : schema.ReordersGroups other) :
    (other.extension groupsExtension).namesWritable =
      (schema.extension groupsExtension).namesWritable := by
  obtain ⟨listed, permuted, here, there, reordered⟩ := reorders.entries
  rw [here, there, Value.namesWritable_map, Value.namesWritable_map]
  exact reordered.symm.all_eq

/-- The two schemas read the same groups. -/
theorem ReordersGroups.readGroups (reorders : schema.ReordersGroups other) :
    (schema.readGroups schema.groupTexts).Perm (other.readGroups other.groupTexts) := by
  have same : other.readGroups other.groupTexts = schema.readGroups other.groupTexts := by
    simp only [Schema.readGroups, group_read_congr reorders.properties]
  rw [same]
  exact reorders.groupTexts.filterMap _

/-- Groups that share no key are laid out the same in any order. -/
theorem ReordersGroups.assembleGroups (reorders : schema.ReordersGroups other)
    (disjoint : (schema.readGroups schema.groupTexts).Pairwise KeyDisjoint)
    (includeSingletons : Bool) :
    other.assembleGroups (Outcome.successes other.inspectGroups) includeSingletons =
      schema.assembleGroups (Outcome.successes schema.inspectGroups) includeSingletons := by
  have again := (reorders.readGroups.pairwise_iff KeyDisjoint.symm).mp disjoint
  have registered := schema.areRegistered_inspectGroups
  rw [assembleGroups_congr reorders.properties, successes_inspectGroups again]
  rw [successes_inspectGroups disjoint] at registered ⊢
  exact assembleGroups_perm registered reorders.readGroups includeSingletons

end Schema

/-! ## Extraction -/

namespace Unchecked

/-- **The order in which groups without a common key are listed does not matter.**  If the names of
the groups can be written, both schemas give the same list; otherwise each is refused for the first
name that it lists and that cannot be written. -/
theorem extractGroups_reordered {schema other : Schema} (reorders : schema.ReordersGroups other)
    (settings : Settings) (choice : Value) :
    ((schema.extension groupsExtension).namesWritable = true →
      (schema.readGroups schema.groupTexts).Pairwise KeyDisjoint →
      ∃ entries, (extractGroups (.schema schema) settings choice).result = .ok entries ∧
        (extractGroups (.schema other) settings choice).result = .ok entries) ∧
    ((schema.extension groupsExtension).namesWritable = false →
      ∃ fault otherFault, (schema.extension groupsExtension).namesFault? = some fault ∧
        (other.extension groupsExtension).namesFault? = some otherFault ∧
        (extractGroups (.schema schema) settings choice).result = .error (.ofDisplay fault) ∧
        (extractGroups (.schema other) settings choice).result =
          .error (.ofDisplay otherFault)) := by
  have names := reorders.namesWritable
  constructor
  · intro writable disjoint
    rw [result_extractGroups_of_writable settings choice writable,
      result_extractGroups_of_writable settings choice (names.trans writable),
      reorders.assembleGroups disjoint]
    exact ⟨_, rfl, rfl⟩
  · intro unwritable
    obtain ⟨fault, met⟩ := Value.exists_namesFault unwritable
    obtain ⟨otherFault, otherMet⟩ := Value.exists_namesFault (names.trans unwritable)
    exact ⟨fault, otherFault, met, otherMet, result_extractGroups_of_fault settings choice met,
      result_extractGroups_of_fault settings choice otherMet⟩

/-- A schema of three properties that lists groups. -/
def grouping (entries : List (Value × Value)) : Schema :=
  ⟨.ofList [⟨"a", none, none, none⟩, ⟨"b", none, none, none⟩, ⟨"c", none, none, none⟩],
    [(groupsExtension, .map entries)]⟩

theorem grouping_reordersGroups {listed permuted : List (Value × Value)}
    (reordered : listed.Perm permuted) : (grouping listed).ReordersGroups (grouping permuted) :=
  ⟨rfl, listed, permuted, rfl, rfl, reordered⟩

/-- Two groups, and a text that is no group, listed in two orders. -/
theorem same_layout_in_two_orders :
    (extractGroups (.schema (grouping [(.text "right", .text "Group(b);"),
        (.text "left", .text "Group(a);"), (.int 3, .text "Group(ghost);")]))
      ⟨true, true⟩ (.bool true)).result =
        .ok [⟨"left", ["a"]⟩, ⟨"right", ["b"]⟩, ⟨"c", ["c"]⟩] ∧
    (extractGroups (.schema (grouping [(.int 3, .text "Group(ghost);"),
        (.text "right", .text "Group(b);"), (.text "left", .text "Group(a);")]))
      ⟨true, true⟩ (.bool true)).result =
        .ok [⟨"left", ["a"]⟩, ⟨"right", ["b"]⟩, ⟨"c", ["c"]⟩] := by
  have reorders := grouping_reordersGroups (List.perm_append_singleton
    ((.int 3, .text "Group(ghost);") : Value × Value)
    [(.text "right", .text "Group(b);"), (.text "left", .text "Group(a);")])
  obtain ⟨entries, here, there⟩ := (extractGroups_reordered reorders ⟨true, true⟩ (.bool true)).1
    (by decide) (by decide)
  refine ⟨rfl, there.trans (here.symm.trans ?_)⟩
  rfl

/-- A text under an integer with one digit too many. -/
def overlong (content : String) : Value × Value :=
  (.int (10 ^ digitLimit : Nat), .text content)

theorem refused_of_overlong {entries : List (Value × Value)} {content : String}
    (member : overlong content ∈ entries) (settings : Settings) (choice : Value) :
    ∃ fault, (extractGroups (.schema (grouping entries)) settings choice).result =
      .error (.ofDisplay fault) := by
  have unwritable : Value.namesWritable (.map entries) = false := by
    rw [Value.namesWritable_map, List.all_eq_false]
    refine ⟨overlong content, member, ?_⟩
    rw [overlong, nameFault?_power]
    exact Bool.false_ne_true
  obtain ⟨fault, met⟩ := Value.exists_namesFault unwritable
  exact ⟨fault, result_extractGroups_of_fault settings choice met⟩

/-- Under a name that cannot be written, a text that is no group leaves no list in either order. -/
theorem no_layout_in_two_orders :
    ∃ schema other : Schema, schema.ReordersGroups other ∧
      (schema.readGroups schema.groupTexts).Pairwise KeyDisjoint ∧
      ∀ choice entries,
        ¬ ((extractGroups (.schema schema) ⟨true, true⟩ choice).result = .ok entries ∧
          (extractGroups (.schema other) ⟨true, true⟩ choice).result = .ok entries) := by
  refine ⟨grouping [overlong "Group(ghost);", (.text "known", .text "Group(a);")],
    grouping [(.text "known", .text "Group(a);"), overlong "Group(ghost);"],
    grouping_reordersGroups (.swap _ _ _), ?_, ?_⟩
  · have unread (name : String) :
        (Group.read (grouping []) name "Group(ghost);").value? = none := rfl
    have read : (grouping []).readGroups [((overlong "Group(ghost);").1.display, "Group(ghost);"),
        ("known", "Group(a);")] = [⟨"known", ["a"]⟩] := List.filterMap_cons_none (unread _)
    have alone : [(⟨"known", ["a"]⟩ : Group)].Pairwise KeyDisjoint := List.pairwise_singleton _ _
    rw [← read] at alone
    exact alone
  · rintro choice entries ⟨extracted, -⟩
    obtain ⟨fault, refused⟩ := refused_of_overlong List.mem_cons_self ⟨true, true⟩ choice
    exact nomatch refused.symm.trans extracted

end Unchecked

end FieldRules
