import FieldRules.Rule.Outcome
import FieldRules.Value.Display

/-!
# Rules inside extension values

Requirements and choices are listed in a sequence, groups in a mapping from
names to texts.  Entries that are no texts are passed over, and a value of
another shape holds no rules.
-/

set_option autoImplicit false

namespace FieldRules

namespace Value

/-- The texts in a sequence, in order. -/
def textEntries : Value → List String
  | .list items | .tuple items => items.filterMap asText?
  | _ => []

/-- An entry of a mapping whose value is a text, under the plain form of its key. -/
def namedText? (entry : Value × Value) : Option (String × String) :=
  entry.2.asText?.map fun content => (entry.1.display, content)

/-- The texts in a mapping, each with the plain form of its key, in order. -/
def namedTextEntries : Value → List (String × String)
  | .map entries => entries.filterMap namedText?
  | _ => []

/-- Why an entry of a mapping has no name, if its value is a text. -/
def nameFault? (entry : Value × Value) : Option DisplayFault :=
  entry.2.asText?.bind fun _ => entry.1.displayFault?

/-- The first fault that is met when the texts in a mapping are named. -/
def namesFault? : Value → Option DisplayFault
  | .map entries => entries.findSome? nameFault?
  | _ => none

/-- Whether the names of the texts in a mapping can be written. -/
def namesWritable (value : Value) : Bool := value.namesFault?.isNone

/-- Names can be written when none of them has a fault. -/
theorem namesWritable_map (entries : List (Value × Value)) :
    namesWritable (.map entries) = entries.all fun entry => (nameFault? entry).isNone := by
  rw [Bool.eq_iff_iff, List.all_eq_true, namesWritable, namesFault?, Option.isNone_iff_eq_none,
    List.findSome?_eq_none_iff]
  simp only [Option.isNone_iff_eq_none]

/-- Names that can be written have no fault. -/
theorem namesFault?_of_writable {value : Value} (writable : value.namesWritable = true) :
    value.namesFault? = none := Option.isNone_iff_eq_none.mp writable

/-- Names that cannot be written have a first fault. -/
theorem exists_namesFault {value : Value} (unwritable : value.namesWritable = false) :
    ∃ fault, value.namesFault? = some fault :=
  Option.isSome_iff_exists.mp (by simpa [namesWritable] using unwritable)

end Value

namespace Schema

/-- The texts of the requirements and choices of a schema. -/
def dependencyTexts (schema : Schema) : List String :=
  (schema.extension dependenciesExtension).textEntries

/-- The names and texts of the groups of a schema. -/
def groupTexts (schema : Schema) : List (String × String) :=
  (schema.extension groupsExtension).namedTextEntries

end Schema

end FieldRules
