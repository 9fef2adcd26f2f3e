import FieldRules.Proofs.Rule.WrittenAgain
import FieldRules.Proofs.Schema.FailSoft

/-!
# Documents of written rules

Rules are written one by one, listed in a document, and extracted again.  The
requirements and the choices come back in their own order, since each text states
its own rule and nothing of the other kind.  The groups come back in the order of
their earliest declared keys.  They share no key, so the registration refuses
none of them, and it does not matter in which order the document lists them.

The extensions of the document are what a caller puts there: the sequence of the
written rules, and the mapping from the names of the groups to their texts
(`Unchecked.IsWritten`).
-/

set_option autoImplicit false

namespace FieldRules

/-! ## Rules that a schema can hold -/

namespace Dependency

/-- The requirement that a dependency is, if it is one. -/
def requirement? : Dependency → Option Requires
  | .requires rule => some rule
  | .onlyOne _ | .group _ => none

/-- The choice that a dependency is, if it is one. -/
def choice? : Dependency → Option OnlyOne
  | .onlyOne rule => some rule
  | .requires _ | .group _ => none

end Dependency

namespace Schema

/-- A list of keys that a schema can hold: it is long enough, and its keys are declared and without
a character that ends a key. -/
structure HoldsKeys (schema : Schema) (kind : ListKind) (keys : List String) : Prop where
  enough : kind.minimum ≤ keys.length
  declared : ∀ key ∈ keys, schema.declares key = true
  free : ∀ key ∈ keys, ¬ HoldsDelimiter key

/-- Requirements and choices in any order, and groups under different names without a common key,
which a schema can hold. -/
structure HoldsDocument (schema : Schema) (rules : List Dependency) (groups : List Group) :
    Prop where
  requirements : ∀ rule, .requires rule ∈ rules →
    rule.FitsSchema schema ∧ ∀ content, ¬ rule.Embeds content
  choices : ∀ rule, .onlyOne rule ∈ rules → schema.HoldsKeys .onlyOne rule.keys
  noGroup : ∀ rule, .group rule ∉ rules
  groupKeys : ∀ group ∈ groups, schema.HoldsKeys .group group.keys
  names : (groups.map Group.name).Nodup
  disjoint : groups.Pairwise KeyDisjoint

end Schema

namespace Unchecked

/-- The texts of the rules, and the names and texts of the groups, as they are written. -/
structure IsWritten (rules : List Dependency) (groups : List Group) (texts : List String)
    (named : List (String × String)) : Prop where
  rules : List.Forall₂ (fun rule text => (write rule.toDraft).result = .ok text) rules texts
  groups : List.Forall₂ (fun group entry => group.name = entry.1 ∧
    (write (Dependency.group group).toDraft).result = .ok entry.2) groups named

end Unchecked

/-! ## What each text states -/

namespace Schema

variable {schema : Schema} {text : String}

/-- What a written rule states on its own. -/
structure States (schema : Schema) (rule : Dependency) (text : String) : Prop where
  short : ¬ schema.HoldsOverlong text
  requirement : schema.requirement? text = rule.requirement?
  choice : schema.choice? text = rule.choice?

theorem states_requires {rule : Requires} (fits : rule.FitsSchema schema)
    (free : ∀ content, ¬ rule.Embeds content)
    (written : (Dependency.requires rule).write = .ok text) :
    schema.States (.requires rule) text := by
  obtain rfl : rule.text fits.isPlain = text :=
    Except.ok.inj ((Requires.write_of_free fits.isPlain free).symm.trans written)
  have read := Requires.read_text fits free
  have stated : schema.requirement? (rule.text fits.isPlain) = some rule := by
    rw [requirement?, read]
    rfl
  refine ⟨fun overlong => ?_, stated, choice?_of_kind ?_⟩
  · obtain ⟨fault, refused⟩ := Requires.exists_error_iff.mpr overlong
    exact absurd (read.symm.trans refused) (by simp)
  · rw [kind_of_requirement? stated]
    decide

theorem states_onlyOne {rule : OnlyOne} (holds : schema.HoldsKeys .onlyOne rule.keys)
    (written : (Dependency.onlyOne rule).write = .ok text) :
    schema.States (.onlyOne rule) text := by
  obtain ⟨enough, plain, rfl⟩ := write_list_eq_ok_iff.mp written
  have stated : schema.choice? (writtenList .onlyOne rule.keys) = some rule := by
    rw [choice?, OnlyOne.read_writtenList enough plain holds.declared]
    rfl
  have announced := kind_of_choice? stated
  refine ⟨fun overlong => ?_, requirement?_of_kind ?_, stated⟩
  · exact absurd (announced.symm.trans overlong.kind) (by decide)
  · rw [announced]
    decide

variable {rules : List Dependency} {groups : List Group}

/-- The texts of written rules state the rules. -/
theorem HoldsDocument.states (holds : schema.HoldsDocument rules groups) {rule : Dependency}
    (member : rule ∈ rules) (written : rule.write = .ok text) : schema.States rule text := by
  cases rule with
  | requires rule =>
    obtain ⟨fits, free⟩ := holds.requirements rule member
    exact states_requires fits free written
  | onlyOne rule => exact states_onlyOne (holds.choices rule member) written
  | group rule => exact absurd member (holds.noGroup rule)

/-- The texts of all rules, with what they state. -/
theorem HoldsDocument.forall₂_states (holds : schema.HoldsDocument rules groups)
    {texts : List String}
    (written : List.Forall₂ (fun rule text => (Unchecked.write rule.toDraft).result = .ok text)
      rules texts) : List.Forall₂ schema.States rules texts := by
  have members : List.Forall₂
      (fun rule text => rule ∈ rules ∧ (Unchecked.write rule.toDraft).result = .ok text)
      rules texts := (List.forall₂_and_left rules texts).mpr ⟨fun rule => id, written⟩
  refine members.imp fun rule text here => ?_
  exact holds.states here.1 (Unchecked.result_write_eq_ok_iff.mp here.2)

/-! ## The groups -/

/-- The text of a written group is read as the group, under its name. -/
theorem read_group {group : Group} (holds : schema.HoldsKeys .group group.keys)
    (written : (Dependency.group group).write = .ok text) :
    (Group.read schema group.name text).result = .ok group := by
  obtain ⟨enough, plain, rfl⟩ := write_list_eq_ok_iff.mp written
  rw [Group.read_writtenList enough plain holds.declared]

end Schema

/-! ## The extensions -/

namespace Value

/-- A new text key goes to the end. -/
theorem assign_of_fresh {entries : List (String × String)} {name : String} (value : Value)
    (fresh : name ∉ entries.map Prod.fst) :
    assign (.text name) value (Unchecked.asArguments entries) =
      Unchecked.asArguments entries ++ [(.text name, value)] := by
  induction entries with
  | nil => rfl
  | cons entry entries ih =>
    rw [List.map_cons, List.mem_cons, not_or] at fresh
    obtain ⟨different, behind⟩ := fresh
    have other : same (.text entry.1) (.text name) = false := by
      rw [same_text]
      exact beq_eq_false_iff_ne.mpr (Ne.symm different)
    have opened : Unchecked.asArguments (entry :: entries) =
        (.text entry.1, .text entry.2) :: Unchecked.asArguments entries := rfl
    rw [opened, assign, other, ih behind]
    rfl

/-- Assignments to different names are kept as they are. -/
theorem assignAll_asArguments {entries : List (String × String)}
    (names : (entries.map Prod.fst).Nodup) :
    assignAll (Unchecked.asArguments entries) = Unchecked.asArguments entries := by
  induction entries using List.reverseRecOn with
  | nil => rfl
  | append_singleton entries entry ih =>
    rw [List.map_append, List.nodup_append] at names
    obtain ⟨before, -, apart⟩ := names
    have fresh : entry.1 ∉ entries.map Prod.fst := fun member =>
      apart _ member _ List.mem_cons_self rfl
    have split : Unchecked.asArguments (entries ++ [entry]) =
        Unchecked.asArguments entries ++ [(.text entry.1, .text entry.2)] := List.map_append
    have last := ih before
    unfold assignAll at last ⊢
    rw [split, List.foldl_append, last]
    exact assign_of_fresh _ fresh

theorem namedTextEntries_asArguments (entries : List (String × String)) :
    namedTextEntries (.map (Unchecked.asArguments entries)) = entries := by
  have opened : namedTextEntries (.map (Unchecked.asArguments entries)) =
      (entries.map fun entry => (text entry.1, text entry.2)).filterMap namedText? := rfl
  rw [opened, List.filterMap_map]
  exact List.filterMap_some

theorem namesWritable_asArguments (entries : List (String × String)) :
    namesWritable (.map (Unchecked.asArguments entries)) = true := by
  rw [namesWritable_map, List.all_eq_true, Unchecked.asArguments, List.forall_mem_map]
  exact fun _ _ => rfl

theorem textEntries_texts (texts : List String) :
    textEntries (.list (texts.map .text)) = texts := by
  have opened : textEntries (.list (texts.map .text)) = (texts.map .text).filterMap asText? := rfl
  rw [opened, List.filterMap_map]
  exact List.filterMap_some

end Value

/-! ## Whole documents -/

namespace Schema

variable {schema : Schema} {rules : List Dependency} {groups : List Group}

/-- A list that a schema can hold is written, if no key is empty. -/
theorem HoldsKeys.write_list {kind : ListKind} {keys : List String}
    (holds : schema.HoldsKeys kind keys) (filled : ∀ key ∈ keys, key ≠ "") :
    (Draft.keysChars kind (keys.map .text)).map String.ofList = .ok (writtenList kind keys) :=
  write_list_eq_ok_iff.mpr ⟨holds.enough, forall_isPlainKey filled holds.free, rfl⟩

/-- Rules and groups that a schema can hold are written, if no listed key is empty. -/
theorem HoldsDocument.exists_isWritten (holds : schema.HoldsDocument rules groups)
    (filled : ∀ rule ∈ rules, ∀ key ∈ rule.keys, key ≠ "")
    (groupsFilled : ∀ group ∈ groups, ∀ key ∈ group.keys, key ≠ "") :
    ∃ texts named, Unchecked.IsWritten rules groups texts named := by
  have eachRule : ∀ rule ∈ rules, ∃ text, (Unchecked.write rule.toDraft).result = .ok text := by
    intro rule member
    simp only [Unchecked.result_write_eq_ok_iff]
    cases rule with
    | requires rule =>
      obtain ⟨fits, free⟩ := holds.requirements rule member
      exact ⟨_, Requires.write_of_free fits.isPlain free⟩
    | onlyOne rule => exact ⟨_, (holds.choices rule member).write_list (filled _ member)⟩
    | group rule => exact absurd member (holds.noGroup rule)
  let named (group : Group) : String × String := (group.name, writtenList .group group.keys)
  obtain ⟨texts, written⟩ := Traversal.exists_mapM_eq_ok_iff.mpr eachRule
  refine ⟨texts, groups.map named, Traversal.mapM_eq_ok_iff.mp written, ?_⟩
  rw [List.forall₂_map_right_iff, List.forall₂_same]
  intro group member
  refine ⟨rfl, Unchecked.result_write_eq_ok_iff.mpr ?_⟩
  exact (holds.groupKeys group member).write_list (groupsFilled group member)

theorem HoldsKeys.congr {document : Schema} (same : document.properties = schema.properties)
    {kind : ListKind} {keys : List String} (holds : schema.HoldsKeys kind keys) :
    document.HoldsKeys kind keys where
  enough := holds.enough
  declared key member := by
    rw [declares, property?, same]
    exact holds.declared key member
  free := holds.free

theorem fitsSchema_congr {document : Schema} (same : document.properties = schema.properties)
    {rule : Requires} (fits : rule.FitsSchema schema) : rule.FitsSchema document := by
  obtain ⟨_, extensions⟩ := schema
  obtain ⟨properties, others⟩ := document
  obtain rfl : properties = _ := same
  exact ⟨fits.prerequisiteDeclared, fits.dependantDeclared, fits.prerequisitePlain,
    fits.dependantPlain, fits.different, fits.prerequisiteFits, fits.dependantFits⟩

/-- A schema with the same properties can hold the same rules. -/
theorem HoldsDocument.congr {document : Schema} (same : document.properties = schema.properties)
    (holds : schema.HoldsDocument rules groups) : document.HoldsDocument rules groups where
  requirements rule member :=
    ⟨fitsSchema_congr same (holds.requirements rule member).1, (holds.requirements rule member).2⟩
  choices rule member := (holds.choices rule member).congr same
  noGroup := holds.noGroup
  groupKeys group member := (holds.groupKeys group member).congr same
  names := holds.names
  disjoint := holds.disjoint

/-- No text of a written rule is overlong. -/
theorem short_of_states {texts : List String} (stated : List.Forall₂ schema.States rules texts) :
    ∀ text ∈ texts, ¬ schema.HoldsOverlong text := by
  intro text member
  obtain ⟨rule, -, states⟩ := Traversal.exists_left_of_mem stated member
  exact states.short

end Schema

namespace Unchecked

variable {schema document : Schema} {rules : List Dependency} {groups : List Group}
  {texts : List String} {named : List (String × String)}

theorem IsWritten.names (written : IsWritten rules groups texts named) :
    named.map Prod.fst = groups.map Group.name := by
  have each := written.groups
  clear written
  induction each with
  | nil => rfl
  | cons head tail ih => rw [List.map_cons, List.map_cons, ih, head.1]

/-- The mapping of the written groups keeps every entry, since their names are different. -/
theorem IsWritten.ofAssignments (written : IsWritten rules groups texts named)
    (distinct : (groups.map Group.name).Nodup) :
    Value.ofAssignments (asArguments named) = .map (asArguments named) := by
  rw [← written.names] at distinct
  rw [Value.ofAssignments, Value.assignAll_asArguments distinct]

/-- The groups of a document are all registered, in the order of the document. -/
theorem successes_inspectGroups (holds : document.HoldsDocument rules groups)
    (written : IsWritten rules groups texts named)
    (listed : document.extension groupsExtension = Value.ofAssignments (asArguments named)) :
    Outcome.successes document.inspectGroups = groups := by
  have members : List.Forall₂ (fun group entry => group ∈ groups ∧ group.name = entry.1 ∧
      (write (Dependency.group group).toDraft).result = .ok entry.2) groups named :=
    (List.forall₂_and_left groups named).mpr ⟨fun group => id, written.groups⟩
  have read : List.Forall₂
      (fun group entry => (Group.read document entry.1 entry.2).result = .ok group)
      groups named := by
    refine members.imp fun group entry ⟨member, name, composed⟩ => ?_
    rw [← name]
    exact Schema.read_group (holds.groupKeys group member) (result_write_eq_ok_iff.mp composed)
  have entries : document.groupTexts = named := by
    rw [Schema.groupTexts, listed, written.ofAssignments holds.names,
      Value.namedTextEntries_asArguments]
  have each : document.readGroups named = groups.filterMap some :=
    Traversal.filterMap_eq_of_forall₂ read fun group entry here => by
      simp [Outcome.value?, here, Except.toOption]
  have all : document.readGroups named = groups := each.trans List.filterMap_some
  rw [← entries] at all
  have disjoint := holds.disjoint
  rw [← all] at disjoint
  rw [Schema.successes_inspectGroups disjoint, all]

/-- **Written rules are extracted again.**  Rules and groups that a schema can hold are written if
no listed key is empty.  From every document with the properties of the schema that lists the
texts, the requirements and the choices are extracted in order, and the groups in the order of their
earliest declared keys. -/
theorem extract_written (schema : Schema) (rules : List Dependency) (groups : List Group)
    (holds : schema.HoldsDocument rules groups) :
    ((∀ rule ∈ rules, ∀ key ∈ rule.keys, key ≠ "") →
      (∀ group ∈ groups, ∀ key ∈ group.keys, key ≠ "") →
      ∃ texts named, IsWritten rules groups texts named) ∧
    ∀ (texts : List String) (named : List (String × String)) (document : Schema)
      (settings : Settings), IsWritten rules groups texts named →
      document.properties = schema.properties →
      document.extension dependenciesExtension = .list (texts.map .text) →
      document.extension groupsExtension = Value.ofAssignments (asArguments named) →
      (extractRequires (.schema document) settings).result =
        .ok (rules.filterMap Dependency.requirement?) ∧
      (extractOnlyOne (.schema document) settings).result =
        .ok (rules.filterMap Dependency.choice?) ∧
      ∃ shown, (extractGroups (.schema document) settings (.bool false)).result = .ok shown ∧
        shown.Perm groups ∧
        shown.Pairwise fun left right =>
          earliest document.keys left.keys < earliest document.keys right.keys := by
  refine ⟨holds.exists_isWritten, ?_⟩
  intro texts named document settings written same listed grouped
  have fits := holds.congr same
  have stated := fits.forall₂_states written.rules
  have entries : document.dependencyTexts = texts := by
    rw [Schema.dependencyTexts, listed, Value.textEntries_texts]
  refine ⟨?_, ?_, ?_⟩
  · have short : ∀ text ∈ document.dependencyTexts, ¬ document.HoldsOverlong text := by
      rw [entries]
      exact Schema.short_of_states stated
    rw [result_extractRequires_of_short document settings short, entries]
    exact congrArg Except.ok
      (Traversal.filterMap_eq_of_forall₂ stated fun rule text states => states.requirement)
  · rw [result_extractOnlyOne, entries]
    exact congrArg Except.ok
      (Traversal.filterMap_eq_of_forall₂ stated fun rule text states => states.choice)
  · have all := successes_inspectGroups fits written grouped
    have registered := document.areRegistered_inspectGroups
    rw [all] at registered
    have writable : (document.extension groupsExtension).namesWritable = true := by
      rw [grouped, written.ofAssignments holds.names]
      exact Value.namesWritable_asArguments named
    refine ⟨document.assembleGroups groups false, ?_,
      Schema.assembleGroups_false_perm registered, Schema.ordered_assembleGroups_false registered⟩
    rw [result_extractGroups_of_writable settings (.bool false) writable, all]
    rfl

/-- A requirement, a choice with a repeated key, and two groups in the wrong order. -/
theorem extracted_from_small_document :
    ∃ (texts : List String) (named : List (String × String)) (document : Schema),
      IsWritten [.onlyOne ⟨["d", "c", "d"]⟩, .requires ⟨"a", some (.text "x;"), "b", some (.int 3)⟩]
        [⟨"late", ["e"]⟩, ⟨"early", ["b", "a"]⟩] texts named ∧
      document.keys = ["a", "b", "c", "d", "e"] ∧
      document.extension dependenciesExtension = .list (texts.map .text) ∧
      document.extension groupsExtension = Value.ofAssignments (asArguments named) ∧
      (extractRequires (.schema document) ⟨true, true⟩).result =
        .ok [⟨"a", some (.text "x;"), "b", some (.int 3)⟩] ∧
      (extractOnlyOne (.schema document) ⟨true, true⟩).result = .ok [⟨["d", "c", "d"]⟩] ∧
      ∃ shown, (extractGroups (.schema document) ⟨true, true⟩ (.bool false)).result = .ok shown ∧
        shown.Perm [⟨"late", ["e"]⟩, ⟨"early", ["b", "a"]⟩] := by
  obtain ⟨written, extracted⟩ := extract_written
    ⟨.ofList [⟨"a", some .string, none, none⟩, ⟨"b", some .number, none, none⟩,
      ⟨"c", none, none, none⟩, ⟨"d", none, none, none⟩, ⟨"e", none, none, none⟩], []⟩
    [.onlyOne ⟨["d", "c", "d"]⟩, .requires ⟨"a", some (.text "x;"), "b", some (.int 3)⟩]
    [⟨"late", ["e"]⟩, ⟨"early", ["b", "a"]⟩]
    { requirements := by
        intro rule member
        obtain rfl : rule = ⟨"a", some (.text "x;"), "b", some (.int 3)⟩ := by simpa using member
        refine ⟨⟨by decide, by decide, isPlainKey_of_keyChars rfl, isPlainKey_of_keyChars rfl,
          by decide, ?_, ?_⟩, ?_⟩
        · rintro literal ⟨⟩
          exact ⟨by decide, by decide⟩
        · rintro literal ⟨⟩
          exact ⟨by decide, by decide⟩
        · rintro content ⟨⟨⟩, holds⟩
          rw [← Expression.embedsConsequent_iff] at holds
          exact absurd holds (by decide)
      choices := by
        intro rule member
        obtain rfl : rule = ⟨["d", "c", "d"]⟩ := by simpa using member
        exact ⟨by decide, by decide, by decide⟩
      noGroup := by simp
      groupKeys := by
        intro group member
        rcases List.mem_pair.mp member with rfl | rfl
        · exact ⟨by decide, by decide, by decide⟩
        · exact ⟨by decide, by decide, by decide⟩
      names := by decide
      disjoint := by decide }
  obtain ⟨texts, named, isWritten⟩ := written (by simp [Dependency.keys, Requires.keys]) (by simp)
  obtain ⟨requirements, choices, shown, result, perm, -⟩ := extracted texts named
    ⟨_, [(dependenciesExtension, .list (texts.map .text)),
      (groupsExtension, Value.ofAssignments (asArguments named))]⟩
    ⟨true, true⟩ isWritten rfl rfl rfl
  exact ⟨texts, named, _, isWritten, rfl, rfl, rfl, requirements, choices, shown, result,
    perm⟩

end Unchecked

end FieldRules
