import FieldRules.Group.Assembly
import FieldRules.Refusal
import FieldRules.Rule.Extraction
import FieldRules.Schema.Document
import FieldRules.Schema.Fields

/-!
# Operations on unchecked arguments

The operations of this library as a caller meets them who passes values of any
kind.  Each argument is checked before the operation runs: the schema first, then
the name of a group, then the text of a rule, then a type.  What passes the
checks is handed on to the operation on checked arguments, which decides the
result.
-/

set_option autoImplicit false

namespace FieldRules

/-- What is passed where a schema is expected. -/
inductive SchemaArgument where
  | schema (schema : Schema)
  | other (value : Value)

namespace Unchecked

/-! ## Checks -/

/-- The schema that was passed. -/
def checkSchema : SchemaArgument → Attempt Schema
  | .schema schema => pure schema
  | .other .null => Attempt.refuse (.schema .absent)
  | .other value => Attempt.refuse (.schema (.notSchema value.kindName))

/-- The schema that was passed to an operation which asks it for a part at once. -/
def schemaWith (part : String) : SchemaArgument → Attempt Schema
  | .schema schema => pure schema
  | .other value => Attempt.refuse (.noAttribute value.kindName part)

/-- The text of a rule that was passed. -/
def checkText : Value → Attempt String
  | .text content => pure content
  | value => Attempt.refuse (.argument (.specificationNotText value.kindName))

/-- The name of a group that was passed. -/
def checkName : Value → Attempt String
  | .text content => pure content
  | value => Attempt.refuse (.argument (.groupNameNotText value.kindName))

/-- The type that was passed. -/
def checkType (value : Value) : Attempt DataType :=
  match DataType.ofValue? value with
  | some type => pure type
  | none => do
    Schema.requireWritable value
    Attempt.refuse (.argument (.unknownDataType value))

/-- The names and texts of groups that were passed. -/
def checkSpecifications : List (Value × Value) → Attempt (List (String × String))
  | [] => pure []
  | (name, text) :: rest => do
    let checkedName ← checkName name
    let checkedText ← checkText text
    let others ← checkSpecifications rest
    return (checkedName, checkedText) :: others

/-! ## Parts of a schema -/

/-- Refuse to hand out a value that cannot be written, or not as a whole. -/
def requireShown (value : Value) : Attempt Unit := do
  Schema.requireWritable value
  if !value.isWhole then Attempt.refuse .endless

/-- The schema that was passed, to be shown with all its extensions. -/
def shownSchema (argument : SchemaArgument) : Attempt Schema := do
  let schema ← checkSchema argument
  schema.extensions.forM fun (_, value) => requireShown value
  return schema

/-- What is found under a name: whether it is a declared key, the property, and the extension
value. -/
structure Finding where
  declared : Bool
  property : Option Property
  extension : Value

/-- Look up a name among the declared keys and among the extensions. -/
def lookUp (argument : SchemaArgument) (name : String) : Attempt Finding := do
  let schema ← schemaWith "has_property" argument
  requireShown (schema.extension name)
  return ⟨schema.declares name, schema.property? name, schema.extension name⟩

/-- Whether every key is declared.  Without keys the schema is not asked. -/
def validateKeys (argument : SchemaArgument) (keys : List String) : Attempt Bool :=
  if keys.isEmpty then pure true
  else do
    let schema ← schemaWith "has_property" argument
    return schema.declaresAll keys

/-- The keys that are not declared, each once.  Without keys the schema is not asked. -/
def missingKeys (argument : SchemaArgument) (keys : List String) : Attempt (List String) :=
  if keys.isEmpty then pure []
  else do
    let schema ← schemaWith "has_property" argument
    return schema.undeclared keys

/-! ## Texts of rules -/

/-- Recognise a text. -/
def classify (text : Value) : Attempt (String × Expression) := do
  let content ← checkText text
  return (content, Expression.ofText content)

/-- Type a literal. -/
def coerce (type : Option DataType) (text : Option String) : Attempt (Option Literal) :=
  Attempt.ofExcept .digits (Literal.read type text)

/-- Read a requirement. -/
def parseRequires (argument : SchemaArgument) (text : Value) : Attempt (Outcome Requires) := do
  let schema ← checkSchema argument
  let content ← checkText text
  Attempt.ofExcept .digits (Requires.read schema content)

/-- Read a choice. -/
def parseOnlyOne (argument : SchemaArgument) (text : Value) : Attempt (Outcome OnlyOne) := do
  let schema ← checkSchema argument
  let content ← checkText text
  return OnlyOne.read schema content

/-- Read a group under a name. -/
def parseGroup (argument : SchemaArgument) (name text : Value) : Attempt (Outcome Group) := do
  let schema ← checkSchema argument
  let checkedName ← checkName name
  let content ← checkText text
  return Group.read schema checkedName content

/-! ## Entries of a schema -/

/-- Names and texts, refused for the first name that cannot be written. -/
def namedTextEntries (value : Value) : Attempt (List (String × String)) :=
  match value.namesFault? with
  | none => pure value.namedTextEntries
  | some fault => Attempt.refuse (.ofDisplay fault)

/-- The texts of the requirements and choices of a schema. -/
def dependencyTexts (argument : SchemaArgument) : Attempt (List String) := do
  let schema ← schemaWith "extension" argument
  return schema.dependencyTexts

/-- The names and texts of the groups of a schema. -/
def groupTexts (argument : SchemaArgument) : Attempt (List (String × String)) := do
  let schema ← schemaWith "extension" argument
  namedTextEntries (schema.extension groupsExtension)

/-! ## Whole schemas -/

/-- The outcomes of reading the listed rules of a kind, given by its name, or all of them.  A name
of no kind asks for nothing. -/
def inspectDependencies (argument : SchemaArgument) (kindName : Option String) :
    Attempt (List (Outcome Dependency)) := do
  let schema ← checkSchema argument
  match kindName with
  | none => Attempt.ofExcept .digits (schema.inspectDependencies none)
  | some name =>
    match Kind.ofName? name with
    | some kind => Attempt.ofExcept .digits (schema.inspectDependencies (some kind))
    | none => return []

/-- The requirements of a schema. -/
def extractRequires (argument : SchemaArgument) (settings : Settings) :
    Attempt (List Requires) := do
  let schema ← checkSchema argument
  let found ← Attempt.ofExcept .digits (schema.extractRequires settings)
  Attempt.ofNoted found

/-- The choices of a schema. -/
def extractOnlyOne (argument : SchemaArgument) (settings : Settings) :
    Attempt (List OnlyOne) := do
  let schema ← checkSchema argument
  Attempt.ofNoted (schema.extractOnlyOne settings)

/-- The choices of a schema among properties of one type.  The choices are extracted, with their
notices, before the type is checked. -/
def extractOnlyOneByType (argument : SchemaArgument) (settings : Settings) (type : Value) :
    Attempt (List OnlyOne) := do
  let schema ← checkSchema argument
  let choices ← Attempt.ofNoted (schema.extractOnlyOne settings)
  let wanted ← checkType type
  return schema.filterByType wanted choices

/-- The outcomes of registering named groups. -/
def registerGroups (argument : SchemaArgument) (specifications : List (Value × Value)) :
    Attempt (List (Outcome Group)) := do
  let schema ← checkSchema argument
  let checked ← checkSpecifications specifications
  return schema.registerGroups checked

/-- The outcomes of registering the groups of a schema. -/
def inspectGroups (argument : SchemaArgument) : Attempt (List (Outcome Group)) := do
  let schema ← checkSchema argument
  let _ ← namedTextEntries (schema.extension groupsExtension)
  return schema.inspectGroups

/-- The groups of a schema.  Null leaves the inclusion of single properties to the settings; any
other value decides it by being present or absent. -/
def extractGroups (argument : SchemaArgument) (settings : Settings) (singletons : Value) :
    Attempt (List Group) := do
  let schema ← checkSchema argument
  let _ ← namedTextEntries (schema.extension groupsExtension)
  let choice := match singletons with
    | .null => none
    | value => some value.isTruthy
  Attempt.ofNoted (schema.extractGroups settings choice)

/-! ## Lists of drafts -/

/-- The keys that a draft lists. -/
def listedKeys? : Draft → Option (List Value)
  | .onlyOne keys | .group _ keys => some keys
  | .requires _ _ _ _ | .other _ => none

/-- The name of a draft's kind in messages. -/
def draftKindName : Draft → String
  | .requires _ _ _ _ => "RequiresDependency"
  | .onlyOne _ => "OnlyOneDependency"
  | .group _ _ => "PropertyGroup"
  | .other value => value.kindName

/-- Only texts among the listed keys can be declared keys. -/
instance : Keyed Draft := ⟨fun draft => ((listedKeys? draft).getD []).filterMap Value.asText?⟩

/-- Whether a draft lists texts only. -/
def listsTexts (draft : Draft) : Bool :=
  ((listedKeys? draft).getD []).all fun key => key.asText?.isSome

/-- Refuse a draft that lists no keys, or one that lists a value which can be no key. -/
def checkListed (draft : Draft) : Attempt Unit :=
  match listedKeys? draft with
  | none => Attempt.refuse (.noAttribute (draftKindName draft) "property_keys")
  | some keys =>
    match keys.findSome? Value.unhashableKind? with
    | some kindName => Attempt.refuse (.unhashable kindName)
    | none => pure ()

/-- Refuse a list of drafts for its first unusable one. -/
def checkAllListed : List Draft → Attempt Unit
  | [] => pure ()
  | draft :: rest => do
    checkListed draft
    checkAllListed rest

/-- A group of a single property as a draft. -/
def singletonDraft (property : Property) : Draft :=
  (Dependency.group (Schema.singleton property)).toDraft

/-- Lay out drafts over the declared properties. -/
def assembleGroups (argument : SchemaArgument) (groups : List Draft) (includeSingletons : Bool) :
    Attempt (List Draft) := do
  let schema ← checkSchema argument
  checkAllListed groups
  return schema.assemble groups fun property =>
    if includeSingletons then some (singletonDraft property) else none

/-- Keep the drafts all of whose keys are declared with a type. -/
def filterByType (argument : SchemaArgument) (groups : List Draft) (type : Value) :
    Attempt (List Draft) := do
  let schema ← checkSchema argument
  let wanted ← checkType type
  checkAllListed groups
  return schema.filterByType wanted (groups.filter listsTexts)

/-! ## Writing -/

/-- The canonical text of a draft. -/
def write (draft : Draft) : Attempt String := Attempt.ofExcept Refusal.ofWriting draft.write

/-- Equality of a dependency and a draft, part by part. -/
def sameAsDraft (dependency : Dependency) (draft : Draft) : Bool :=
  match dependency.toDraft, draft with
  | .requires key dependant value dependantValue,
      .requires key' dependant' value' dependantValue' =>
    Value.same key key' && Value.same dependant dependant' && Value.same value value'
      && Value.same dependantValue dependantValue'
  | .onlyOne keys, .onlyOne keys' => Value.sameItems keys keys'
  | .group name keys, .group name' keys' => Value.same name name' && Value.sameItems keys keys'
  | _, _ => false

/-- Read a text with the reader for the kind of a draft, under the draft's own name for a group. -/
def readLike (argument : SchemaArgument) (draft : Draft) (text : String) :
    Attempt (Outcome Dependency) :=
  match draft with
  | .requires _ _ _ _ => do
    let outcome ← parseRequires argument (.text text)
    return outcome.map .requires
  | .group name _ => do
    let outcome ← parseGroup argument name (.text text)
    return outcome.map .group
  | .onlyOne _ | .other _ => do
    let outcome ← parseOnlyOne argument (.text text)
    return outcome.map .onlyOne

/-- What comes of writing a draft and reading it again. -/
structure RoundTrip where
  text : String
  outcome : Outcome Dependency
  equal : Bool

/-- Write a draft and read its text again. -/
def roundTrip (argument : SchemaArgument) (draft : Draft) : Attempt RoundTrip := do
  let text ← write draft
  let outcome ← readLike argument draft text
  return ⟨text, outcome, outcome.value?.any fun dependency => sameAsDraft dependency draft⟩

end Unchecked

end FieldRules
