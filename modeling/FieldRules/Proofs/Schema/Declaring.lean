import FieldRules.Proofs.Schema.Declared
import FieldRules.Proofs.Traversal
import FieldRules.Schema.Fields

/-!
# Declaring properties one after another

Properties are declared one after another, and a later one takes the place of an
earlier one with the same key.  So the keys stand in the order of their first
declarations (`Properties.keys_ofList`), and a key is found with its last
declaration (`Properties.find?_ofList_of_last`).

The same properties can be handed over as named fields.  Names that are the keys
of their properties pass the check of the names, and the schema is the one that
the declarations make (`SchemaFields.toSchema_named`).
-/

set_option autoImplicit false

namespace FieldRules

/-! ## Declarations in order -/

namespace Properties

theorem find?_replaceOrAppend (property : Property) (list : List Property) (key : String) :
    (replaceOrAppend property list).find? (fun other => other.key == key) =
      if property.key = key then some property
      else list.find? (fun other => other.key == key) := by
  induction list with
  | nil =>
    by_cases same : property.key = key
    · simp [replaceOrAppend, same]
    · simp [replaceOrAppend, same]
  | cons first rest ih =>
    by_cases replaced : first.key = property.key
    · by_cases same : property.key = key
      · simp [replaceOrAppend, replaced, same]
      · simp [replaceOrAppend, replaced, same]
    · by_cases same : first.key = key
      · subst same
        have other : property.key ≠ first.key := fun equal => replaced equal.symm
        simp [replaceOrAppend, replaced, other]
      · simp [replaceOrAppend, replaced, same, ih]

/-- A declaration is found under its key, and what is found under other keys stays the same. -/
theorem find?_declare (properties : Properties) (property : Property) (key : String) :
    (properties.declare property).find? key =
      if property.key = key then some property else properties.find? key :=
  find?_replaceOrAppend property properties.toList key

theorem keys_declare (properties : Properties) (property : Property) :
    (properties.declare property).keys =
      if property.key ∈ properties.keys then properties.keys
      else properties.keys ++ [property.key] :=
  map_key_replaceOrAppend property properties.toList

/-- The keys of declarations are their first occurrences. -/
theorem keys_ofList (declarations : List Property) :
    (ofList declarations).keys = Schema.firstOccurrences (declarations.map Property.key) := by
  have behind (properties : Properties) : (declarations.foldl declare properties).keys =
      (declarations.map Property.key).foldl
        (fun seen key => if seen.contains key then seen else seen ++ [key]) properties.keys := by
    induction declarations generalizing properties with
    | nil => rfl
    | cons first rest ih =>
      rw [List.foldl_cons, ih, List.map_cons, List.foldl_cons, keys_declare]
      simp only [List.contains_iff_mem]
  exact behind empty

/-- Declarations under other keys leave what is found under a key. -/
theorem find?_foldl_of_other {declarations : List Property} {key : String}
    (other : ∀ property ∈ declarations, property.key ≠ key) (properties : Properties) :
    (declarations.foldl declare properties).find? key = properties.find? key := by
  induction declarations generalizing properties with
  | nil => rfl
  | cons first rest ih =>
    rw [List.forall_mem_cons] at other
    rw [List.foldl_cons, ih other.2, find?_declare, if_neg other.1]

/-- A key is found with its last declaration. -/
theorem find?_ofList_of_last {before behind : List Property} {property : Property}
    (last : ∀ later ∈ behind, later.key ≠ property.key) :
    (ofList (before ++ property :: behind)).find? property.key = some property := by
  rw [ofList, List.foldl_append, List.foldl_cons, find?_foldl_of_other last, find?_declare,
    if_pos rfl]

/-- What is found under a key has that key. -/
theorem key_of_find? {properties : Properties} {key : String} {property : Property}
    (found : properties.find? key = some property) : property.key = key := by
  simpa using List.find?_some found

/-- Declarations under keys that are all different stand as they are. -/
theorem toList_ofList {declarations : List Property}
    (nodup : (declarations.map Property.key).Nodup) :
    (ofList declarations).toList = declarations := by
  have appended (property : Property) (list : List Property)
      (fresh : property.key ∉ list.map Property.key) :
      replaceOrAppend property list = list ++ [property] := by
    induction list with
    | nil => rfl
    | cons first rest ih =>
      simp only [List.map_cons, List.mem_cons, not_or] at fresh
      have other : first.key ≠ property.key := fun equal => fresh.1 equal.symm
      simp [replaceOrAppend, other, ih fresh.2]
  induction declarations using List.reverseRecOn with
  | nil => rfl
  | append_singleton front last ih =>
    rw [List.map_append, List.nodup_append] at nodup
    obtain ⟨frontNodup, -, apart⟩ := nodup
    have fresh : last.key ∉ front.map Property.key :=
      fun old => apart _ old _ List.mem_cons_self rfl
    have step : (ofList (front ++ [last])).toList =
        replaceOrAppend last (ofList front).toList := by
      rw [ofList, List.foldl_append]
      rfl
    rw [step, ih frontNodup, appended last front fresh]

/-- The properties that were declared can be declared again. -/
theorem ofList_toList (properties : Properties) : ofList properties.toList = properties := by
  have same : (ofList properties.toList).toList = properties.toList :=
    toList_ofList properties.keys_nodup
  cases properties with
  | mk list nodup =>
    cases declared : ofList list with
    | mk list' nodup' =>
      simp only [declared] at same
      subst same
      rfl

end Properties

/-! ## Named fields -/

/-- A property as the fields that make it up; what it leaves out is null. -/
def Property.toFields (property : Property) : PropertyFields where
  key := some (.text property.key)
  type := some ((property.type.map fun type => Value.text type.name).getD .null)
  format := some ((property.format.map Value.text).getD .null)
  title := some ((property.title.map Value.text).getD .null)

namespace PropertyFields

theorem optionalText_shown (name : String) (text : Option String) :
    optionalText name (some ((text.map Value.text).getD .null)) = .ok text := by
  cases text <;> rfl

theorem optionalType_shown (name : String) (type : Option DataType) :
    optionalType name (some ((type.map fun type => Value.text type.name).getD .null)) =
      .ok type := by
  cases type with
  | none => rfl
  | some type =>
    have known : DataType.ofValue? (.text type.name) = some type := DataType.ofName?_name type
    simp only [optionalType, Option.map_some, Option.getD_some, known]

/-- The fields of a property make it up. -/
theorem toProperty_toFields (property : Property) :
    property.toFields.toProperty = .ok property := by
  simp only [toProperty, Property.toFields, optionalText_shown, optionalType_shown]
  rfl

end PropertyFields

namespace SchemaFields

/-- Properties under their own keys. -/
def byKey (properties : List Property) : List (String × Property) :=
  properties.map fun property => (property.key, property)

theorem register_byKey (property : Property) (list : List Property) :
    register property.key property (byKey list) =
      byKey (Properties.replaceOrAppend property list) := by
  induction list with
  | nil => rfl
  | cons first rest ih =>
    by_cases same : first.key = property.key
    · simp [byKey, register, Properties.replaceOrAppend, same]
    · have behind : register property.key property (rest.map fun other => (other.key, other)) =
          (Properties.replaceOrAppend property rest).map fun other => (other.key, other) := ih
      simp [byKey, register, Properties.replaceOrAppend, same, behind]

/-- Properties that are registered under their own keys stand as if they were declared. -/
theorem foldl_register_byKey (list : List Property) :
    (byKey list).foldl (fun named (name, property) => register name property named) [] =
      byKey (Properties.ofList list).toList := by
  have behind (properties : Properties) :
      (byKey list).foldl (fun named (name, property) => register name property named)
        (byKey properties.toList) = byKey (list.foldl Properties.declare properties).toList := by
    induction list generalizing properties with
    | nil => rfl
    | cons first rest ih =>
      have step := register_byKey first properties.toList
      rw [List.foldl_cons, ← ih]
      exact congrArg (fun named => (byKey rest).foldl
        (fun named (name, property) => register name property named) named) step
  exact behind .empty

/-- No property under its own key fails the check of the names. -/
theorem findSome?_mismatch?_byKey (list : List Property) :
    (byKey list).findSome? mismatch? = none := by
  rw [List.findSome?_eq_none_iff]
  intro named member
  obtain ⟨property, -, rfl⟩ := List.mem_map.mp member
  simp [mismatch?]

theorem mapM_toProperty_byKey (list : List Property) :
    ((byKey list).map fun named => (named.1, named.2.toFields)).mapM
        (fun (name, property) => property.toProperty.map fun built => (name, built)) =
      .ok (byKey list) := by
  rw [Traversal.mapM_eq_ok_iff, List.forall₂_map_left_iff, List.forall₂_same]
  intro named _
  change named.2.toFields.toProperty.map (fun built => (named.1, built)) = .ok named
  rw [PropertyFields.toProperty_toFields]
  rfl

/-- Properties that are handed over as fields under their own keys are accepted, and make the
schema of their declarations. -/
theorem toSchema_named {list : List Property} {extensions : Option Value}
    {read : List (String × Value)} (accepted : readExtensions extensions = .ok read) :
    toSchema ⟨(byKey list).map fun named => (named.1, named.2.toFields), extensions⟩ =
      .ok ⟨Properties.ofList list, read⟩ := by
  have second : (byKey (Properties.ofList list).toList).map Prod.snd =
      (Properties.ofList list).toList := by
    rw [byKey, List.map_map]
    exact List.map_id _
  unfold toSchema
  rw [mapM_toProperty_byKey]
  simp only [bind, Except.bind, foldl_register_byKey, accepted, findSome?_mismatch?_byKey, second,
    Properties.ofList_toList]
  rfl

end SchemaFields

end FieldRules
