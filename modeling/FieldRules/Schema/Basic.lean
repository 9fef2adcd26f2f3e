import FieldRules.Value.Basic

/-!
# Object schemas

The rules of this library speak about the properties of an object.  A schema
declares those properties, each under a key of its own and in a fixed order, and
carries the extension values in which the rules themselves are written.

No two properties of a schema share a key.  This is part of the type, so every
way of building a schema has to establish it, and the look-up of a key has at
most one answer.
-/

set_option autoImplicit false

namespace FieldRules

/-! ## Declared types -/

/-- The type that a property may declare. -/
inductive DataType where
  | boolean
  | string
  | integer
  | number
  | object
  | array
  deriving DecidableEq, Repr

namespace DataType

/-- The name of a type in documents. -/
def name : DataType → String
  | .boolean => "boolean"
  | .string => "string"
  | .integer => "integer"
  | .number => "number"
  | .object => "object"
  | .array => "array"

/-- All types. -/
def all : List DataType := [.boolean, .string, .integer, .number, .object, .array]

/-- The type with a name. -/
def ofName? (name : String) : Option DataType := all.find? fun type => type.name == name

/-- The type that a document value names; only a text can name one. -/
def ofValue? : Value → Option DataType
  | .text name => ofName? name
  | _ => none

/-- A name names its type. -/
theorem ofName?_name (type : DataType) : ofName? type.name = some type := by
  cases type <;> decide

/-- A type is found under its own name only. -/
theorem name_of_ofName? {name : String} {type : DataType} (found : ofName? name = some type) :
    type.name = name := by
  simpa using List.find?_some found

end DataType

/-! ## Properties -/

/-- A declared property. -/
structure Property where
  key : String
  type : Option DataType
  format : Option String
  title : Option String
  deriving DecidableEq, Repr

/-- The name under which a property is shown: its title, or its key if the title is absent or
empty. -/
def Property.displayName (property : Property) : String :=
  match property.title with
  | none => property.key
  | some title => if title == "" then property.key else title

/-- Properties in order of declaration, no two under the same key. -/
structure Properties where
  toList : List Property
  keys_nodup : (toList.map Property.key).Nodup

namespace Properties

/-- No properties. -/
def empty : Properties := ⟨[], List.nodup_nil⟩

/-- The keys in order of declaration. -/
def keys (properties : Properties) : List String := properties.toList.map Property.key

/-- The property declared under a key. -/
def find? (properties : Properties) (key : String) : Option Property :=
  properties.toList.find? fun property => property.key == key

/-- A list of properties in which one of the same key is replaced in its place, or to which the
property is added at the end. -/
def replaceOrAppend (property : Property) : List Property → List Property
  | [] => [property]
  | first :: rest =>
    if first.key == property.key then property :: rest
    else first :: replaceOrAppend property rest

/-- Replacing or appending keeps the old keys in place and adds a new one at the end. -/
theorem map_key_replaceOrAppend (property : Property) (list : List Property) :
    (replaceOrAppend property list).map Property.key =
      if property.key ∈ list.map Property.key then list.map Property.key
      else list.map Property.key ++ [property.key] := by
  induction list with
  | nil => simp [replaceOrAppend]
  | cons first rest ih =>
    by_cases same : first.key = property.key
    · simp [replaceOrAppend, same]
    · have other : ¬ property.key = first.key := fun equal => same equal.symm
      simp only [replaceOrAppend, beq_iff_eq, same, ↓reduceIte, List.map_cons, ih,
        List.mem_cons, other, false_or]
      split <;> simp

/-- Declare a property.  A second declaration under a key takes the place of the first. -/
def declare (properties : Properties) (property : Property) : Properties where
  toList := replaceOrAppend property properties.toList
  keys_nodup := by
    rw [map_key_replaceOrAppend]
    split
    · exact properties.keys_nodup
    · next fresh =>
      rw [List.nodup_append]
      refine ⟨properties.keys_nodup, by simp, ?_⟩
      intro key old other member
      simp only [List.mem_singleton] at member
      subst member
      intro equal
      exact fresh (equal ▸ old)

/-- The properties that a list of declarations leaves. -/
def ofList (declarations : List Property) : Properties := declarations.foldl declare empty

end Properties

/-! ## Schemas -/

/-- A schema: the declared properties, and the extension values by name. -/
structure Schema where
  properties : Properties
  extensions : List (String × Value)

namespace Schema

/-- The declared keys in order. -/
def keys (schema : Schema) : List String := schema.properties.keys

/-- The property declared under a key. -/
def property? (schema : Schema) (key : String) : Option Property := schema.properties.find? key

/-- Whether a key is declared. -/
def declares (schema : Schema) (key : String) : Bool := (schema.property? key).isSome

/-- The extension value under a name; an absent extension is null. -/
def extension (schema : Schema) (name : String) : Value :=
  (schema.extensions.lookup name).getD .null

/-- Whether every key is declared. -/
def declaresAll (schema : Schema) (keys : List String) : Bool := keys.all schema.declares

/-- The first occurrences in a list. -/
def firstOccurrences (keys : List String) : List String :=
  keys.foldl (fun seen key => if seen.contains key then seen else seen ++ [key]) []

/-- The keys that are not declared, each once, in order of first appearance. -/
def undeclared (schema : Schema) (keys : List String) : List String :=
  (firstOccurrences keys).filter fun key => !schema.declares key

/-- A key is declared when it is among the keys. -/
theorem declares_iff (schema : Schema) (key : String) :
    schema.declares key = true ↔ key ∈ schema.keys := by
  simp [declares, property?, Properties.find?, keys, Properties.keys]

end Schema

end FieldRules
