import FieldRules.Refusal
import FieldRules.Schema.Basic

/-!
# Schemas from single fields

A schema may also be put together from fields that a caller fills with values.
Each property is built from its own fields first; all its refused fields are
reported together, in the order key, type, format, title.  Then the extensions
have to form a mapping with text keys, and every property has to stand under its
own key.
-/

set_option autoImplicit false

namespace FieldRules

/-- The fields of a property, each given or left out. -/
structure PropertyFields where
  key : Option Value
  type : Option Value
  format : Option Value
  title : Option Value

namespace PropertyFields

/-- The error that a single field is refused with. -/
def refused {α : Type} (name : String) (fault : FieldFault) : Except FieldError α :=
  .error ⟨[name], fault⟩

/-- A field that has to be given and to be a text. -/
def requiredText (name : String) : Option Value → Except FieldError String
  | none => refused name .missing
  | some (.text content) => .ok content
  | some _ => refused name .notText

/-- A field that may be left out or null and is a text otherwise. -/
def optionalText (name : String) : Option Value → Except FieldError (Option String)
  | none | some .null => .ok none
  | some (.text content) => .ok (some content)
  | some _ => refused name .notText

/-- A field that may be left out or null and names a type otherwise. -/
def optionalType (name : String) : Option Value → Except FieldError (Option DataType)
  | none | some .null => .ok none
  | some value =>
    match DataType.ofValue? value with
    | some type => .ok (some type)
    | none => refused name .notDataType

/-- The error of a refused field, if it was refused. -/
def error? {α : Type} : Except FieldError α → Option FieldError
  | .ok _ => none
  | .error error => some error

/-- The property that the fields make up, or all errors of its fields. -/
def toProperty (fields : PropertyFields) : Except (List FieldError) Property :=
  let key := requiredText "key" fields.key
  let type := optionalType "type" fields.type
  let format := optionalText "format" fields.format
  let title := optionalText "title" fields.title
  match key, type, format, title with
  | .ok key, .ok type, .ok format, .ok title => .ok ⟨key, type, format, title⟩
  | _, _, _, _ => .error ([error? key, error? type, error? format, error? title].filterMap id)

end PropertyFields

/-- The fields of a schema: properties under names, and extensions given or left out. -/
structure SchemaFields where
  properties : List (String × PropertyFields)
  extensions : Option Value

namespace SchemaFields

/-- The place of an extension name that is no text. -/
def keyLocation : Value → String
  | .bool truth => if truth then "1" else "0"
  | value => value.quoted

/-- The extensions by name, or the errors of their names. -/
def readExtensions (extensions : Option Value) :
    Except (List FieldError) (List (String × Value)) :=
  match extensions with
  | none => .ok []
  | some (.map entries) =>
    let errors := entries.filterMap fun entry =>
      match entry.1 with
      | .text _ => none
      | key => some ⟨["extensions", keyLocation key, "[key]"], .notText⟩
    if errors.isEmpty then
      .ok (entries.filterMap fun entry => entry.1.asText?.map fun name => (name, entry.2))
    else .error errors
  | some _ => .error [⟨["extensions"], .notMapping⟩]

/-- Named properties in which a name that comes again takes its first place and its last
property. -/
def register (name : String) (property : Property) :
    List (String × Property) → List (String × Property)
  | [] => [(name, property)]
  | (first, current) :: rest =>
    if first == name then (first, property) :: rest
    else (first, current) :: register name property rest

/-- The error of a property that stands under another name than its key. -/
def mismatch? (named : String × Property) : Option FieldError :=
  if named.1 == named.2.key then none else some ⟨[], .keyMismatch named.1 named.2.key⟩

/-- The schema that the fields make up.  Properties are built in order, and the first one with a
refused field ends the attempt; the extensions come next, and the names last. -/
def toSchema (fields : SchemaFields) : Except (List FieldError) Schema := do
  let properties ← fields.properties.mapM fun (name, property) =>
    property.toProperty.map fun built => (name, built)
  let registered := properties.foldl (fun named (name, property) => register name property named) []
  let extensions ← readExtensions fields.extensions
  match registered.findSome? mismatch? with
  | some error => throw [error]
  | none => return ⟨Properties.ofList (registered.map Prod.snd), extensions⟩

end SchemaFields

end FieldRules
