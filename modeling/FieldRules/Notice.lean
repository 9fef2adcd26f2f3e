import FieldRules.Rule.Outcome
import FieldRules.Value.Display

/-!
# Notices

What the operations report beside their results.  Reading a document notes the
parts that it ignores; extracting rules notes every rule that was dropped.  A
notice is a cause; its channel, its level and its wording are read off the cause.
The wording shows values, so a notice about a value that cannot be written has
none (`Notice.displayFault?`); it is given all the same.
-/

set_option autoImplicit false

namespace FieldRules

/-- The part of the library that a notice comes from. -/
inductive Channel where
  | schema
  | dependencies
  | groups
  deriving DecidableEq, Repr

/-- The name under which a channel keeps its records. -/
def Channel.name : Channel → String
  | .schema => "hyperui.schema"
  | .dependencies => "hyperui.idl"
  | .groups => "hyperui.idl.groups"

/-- How much a notice matters. -/
inductive Level where
  | warning
  | debug
  deriving DecidableEq, Repr

/-- The name of a level in records. -/
def Level.name : Level → String
  | .warning => "WARNING"
  | .debug => "DEBUG"

/-- A notice. -/
inductive Notice where
  | propertiesIgnored (kindName : String)
  | typeUnsupported (key value : Value)
  | dropped (channel : Channel) (kind : Kind) (specification : String) (failure : Failure)

namespace Notice

/-- The channel of a notice. -/
def channel : Notice → Channel
  | .propertiesIgnored _ | .typeUnsupported _ _ => .schema
  | .dropped channel _ _ _ => channel

/-- The level of a notice. -/
def level : Notice → Level
  | .propertiesIgnored _ | .typeUnsupported _ _ => .warning
  | .dropped _ _ _ _ => .debug

/-- Why a notice has no wording: a value that it shows cannot be written. -/
def displayFault? : Notice → Option DisplayFault
  | .typeUnsupported key value => key.displayFault?.or value.displayFault?
  | .propertiesIgnored _ | .dropped _ _ _ _ => none

/-- The wording of a notice, if it has one. -/
def message : Notice → String
  | .propertiesIgnored kindName => "ignoring non-mapping 'properties' (" ++ kindName ++ ")"
  | .typeUnsupported key value =>
    "property '" ++ key.display ++ "' has unsupported type " ++ value.quoted
      ++ "; treating as untyped"
  | .dropped _ kind specification failure =>
    "dropped " ++ kind.name ++ " specification " ++ Text.quoted specification ++ ": "
      ++ failure.code.name ++ " (" ++ failure.message ++ ")"

/-- The notice of a failed outcome. -/
def ofOutcome? {α : Type} (channel : Channel) (outcome : Outcome α) : Option Notice :=
  outcome.failure?.map (.dropped channel outcome.kind outcome.specification)

/-- The notices of the failed outcomes, in order, if the settings ask for them. -/
def ofOutcomes {α : Type} (noteDropped : Bool) (channel : Channel)
    (outcomes : List (Outcome α)) : List Notice :=
  if noteDropped then outcomes.filterMap (ofOutcome? channel) else []

end Notice

/-- A result together with the notices that were given on the way to it. -/
structure Noted (α : Type) where
  notices : List Notice
  value : α

end FieldRules
