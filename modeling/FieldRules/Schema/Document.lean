import FieldRules.Refusal
import FieldRules.Schema.Basic
import FieldRules.Text.Blank

/-!
# Schemas in documents

A document describes an object as a mapping.  Its entry `properties` maps keys
to declarations, and its entries whose names start with `x-` are extension
values.  Everything else is ignored.

The reader takes what it can use.  A key of any kind declares a property under
its plain form, and a later declaration under the same form takes the place of
the earlier one.  A declaration that is no mapping declares nothing but its key.
A type that is not known is noted and left open.

What a declaration shows has to be written, and a value that cannot be written
ends the reading.  A type that is not known is written only to be noted, so it may
hold a number that is too long, but must not be nested too deeply.
-/

set_option autoImplicit false

namespace FieldRules

namespace Value

/-- The plain form of a value, without the blanks around it; null and blank forms are absent. -/
def trimmedDisplay? (value : Value) : Option String :=
  match value with
  | .null => none
  | present =>
    let content := Text.trimmed present.display
    if content == "" then none else some content

end Value

namespace Schema

/-- The names of extensions start with these characters. -/
def isExtensionName (name : String) : Bool :=
  match name.toList with
  | 'x' :: '-' :: _ => true
  | _ => false

/-- Give up on a value that cannot be written. -/
def requireWritable (value : Value) : Attempt Unit :=
  match value.displayFault? with
  | none => pure ()
  | some fault => Attempt.refuse (.ofDisplay fault)

/-- Give up on a value that cannot be written because it is nested too deeply. -/
def requireShallow (value : Value) : Attempt Unit :=
  if value.displayFault? = some .tooDeep then Attempt.refuse .tooDeep else pure ()

/-- The type that a declaration names; a value that names none is noted. -/
def declaredType (key value : Value) : Attempt (Option DataType) :=
  match value with
  | .null => pure none
  | present =>
    match DataType.ofValue? present with
    | some type => pure (some type)
    | none => do
      requireShallow present
      Attempt.note (.typeUnsupported key present)
      return none

/-- An optional text of a declaration. -/
def declaredText (value : Value) : Attempt (Option String) := do
  requireWritable value
  return value.trimmedDisplay?

/-- The property that one entry declares. -/
def declaration (key value : Value) : Attempt Property := do
  requireWritable key
  let type ← declaredType key (value.field "type")
  let format ← declaredText (value.field "format")
  let title ← declaredText (value.field "title")
  return ⟨key.display, type, format, title⟩

/-- The properties that the entries of a mapping declare, in order, added to earlier ones. -/
def declareAll (properties : Properties) : List (Value × Value) → Attempt Properties
  | [] => pure properties
  | (key, value) :: rest => do
    let property ← declaration key value
    declareAll (properties.declare property) rest

/-- The properties that the value of the entry `properties` declares.  An empty value declares
none; a value that is no mapping is noted. -/
def readProperties (value : Value) : Attempt Properties :=
  if value.isTruthy then
    match value with
    | .map entries => declareAll .empty entries
    | other => do
      Attempt.note (.propertiesIgnored other.kindName)
      return .empty
  else pure .empty

/-- An entry of a document that is an extension. -/
def extensionEntry? : Value × Value → Option (String × Value)
  | (.text name, value) => if isExtensionName name then some (name, value) else none
  | _ => none

/-- The schema that a document describes. -/
def ofDocument (document : Value) : Attempt Schema :=
  match document with
  | .map entries => do
    let properties ← readProperties (document.field "properties")
    return ⟨properties, entries.filterMap extensionEntry?⟩
  | other => Attempt.refuse (.schema (.notMapping other.kindName))

end Schema

end FieldRules
