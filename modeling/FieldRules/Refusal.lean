import FieldRules.Notice
import FieldRules.Rule.Writing

/-!
# Refusals

An operation on unchecked arguments may refuse them.  A refusal is a cause of
one of a few classes: a schema that cannot be used, an argument of the wrong
kind, fields that do not make up a schema, a number that cannot be converted, a
value that is nested too deeply, or a fault of a reader that is passed on.  The
name of its class and its wording are read off the cause.

The notices given before a refusal are kept, so an attempt has notices whether
it succeeds or not.
-/

set_option autoImplicit false

namespace FieldRules

/-! ## Causes -/

/-- Why a schema cannot be used. -/
inductive SchemaFault where
  | absent
  | notSchema (kindName : String)
  | notMapping (kindName : String)
  | notText (kindName : String)
  | unreadable (detail : String)

/-- The wording for a schema that cannot be used.  For a text that is no YAML it holds the detail
that the reader gives. -/
def SchemaFault.message : SchemaFault → String
  | .absent => "schema is required (received NoneType)"
  | .notSchema kindName => "expected a SchemaView (received " ++ kindName ++ ")"
  | .notMapping kindName => "OpenAPI schema must be a mapping (received " ++ kindName ++ ")"
  | .notText kindName => "schema YAML must be text (received " ++ kindName ++ ")"
  | .unreadable detail => "schema YAML could not be parsed: " ++ detail ++ " (received str)"

/-- Why an argument is refused. -/
inductive ArgumentFault where
  | specificationNotText (kindName : String)
  | groupNameNotText (kindName : String)
  | unknownDataType (value : Value)
  | writing (fault : WritingFault)

/-- The wording for a refused argument. -/
def ArgumentFault.message : ArgumentFault → String
  | .specificationNotText kindName => "IDL specification must be a string, got " ++ kindName
  | .groupNameNotText kindName => "group name must be a string, got " ++ kindName
  | .unknownDataType value => "unknown data type " ++ value.quoted
  | .writing fault => fault.message

/-- Why a field is refused. -/
inductive FieldFault where
  | missing
  | notText
  | notDataType
  | notMapping
  | keyMismatch (registered declared : String)

/-- The wording for a refused field. -/
def FieldFault.message : FieldFault → String
  | .missing => "missing"
  | .notText => "string_type"
  | .notDataType => "enum"
  | .notMapping => "dict_type"
  | .keyMismatch registered declared =>
    "value_error (Value error, property registered under '" ++ registered
      ++ "' declares key '" ++ declared ++ "')"

/-- A refused field: where it is and why it is refused. -/
structure FieldError where
  location : List String
  fault : FieldFault

/-- The wording of a refused field behind its place. -/
def FieldError.message (error : FieldError) : String :=
  ".".intercalate error.location ++ ": " ++ error.fault.message

/-- Why an operation was refused.  A value may be nested too deeply to be written, and one that
holds itself is endless; what a reader passes on comes with the name of its class. -/
inductive Refusal where
  | schema (fault : SchemaFault)
  | argument (fault : ArgumentFault)
  | fields (errors : List FieldError)
  | digits (fault : DigitFault)
  | tooDeep
  | endless
  | unhashable (kindName : String)
  | noAttribute (kindName part : String)
  | passedOn (className message : String)

namespace Refusal

/-- The name of the class of a refusal. -/
def className : Refusal → String
  | .schema _ => "InvalidSchemaError"
  | .argument _ => "IdlArgumentError"
  | .fields _ => "ValidationError"
  | .digits _ => "ValueError"
  | .tooDeep | .endless => "RecursionError"
  | .unhashable _ => "TypeError"
  | .noAttribute _ _ => "AttributeError"
  | .passedOn className _ => className

/-- The wording of a refusal. -/
def message : Refusal → String
  | .schema fault => fault.message
  | .argument fault => fault.message
  | .fields errors => "; ".intercalate (errors.map FieldError.message)
  | .digits fault => fault.message
  | .tooDeep => DisplayFault.message .tooDeep
  | .endless => "maximum recursion depth exceeded"
  | .unhashable kindName => "unhashable type: '" ++ kindName ++ "'"
  | .noAttribute kindName part =>
    "'" ++ kindName ++ "' object has no attribute '" ++ part ++ "'"
  | .passedOn _ message => message

/-- A value without a written form as a refusal. -/
def ofDisplay : DisplayFault → Refusal
  | .tooLong => .digits .tooLongToWrite
  | .tooDeep => .tooDeep

/-- A draft without a text as a refusal. -/
def ofWriting : WritingFault → Refusal
  | .unwritable fault => ofDisplay fault
  | fault => .argument (.writing fault)

end Refusal

/-! ## Attempts -/

/-- The notices given by an operation, and its result or refusal. -/
structure Attempt (α : Type) where
  notices : List Notice
  result : Except Refusal α

namespace Attempt

variable {α β : Type}

/-- An attempt that gives a result and no notice. -/
def succeed (value : α) : Attempt α := ⟨[], .ok value⟩

/-- An attempt that is refused. -/
def refuse (refusal : Refusal) : Attempt α := ⟨[], .error refusal⟩

/-- An attempt that gives one notice. -/
def note (notice : Notice) : Attempt Unit := ⟨[notice], .ok ()⟩

/-- Carry on with a result; a refusal ends the attempt, and all notices are kept in order. -/
def andThen (attempt : Attempt α) (next : α → Attempt β) : Attempt β :=
  match attempt.result with
  | .ok value =>
    let rest := next value
    ⟨attempt.notices ++ rest.notices, rest.result⟩
  | .error refusal => ⟨attempt.notices, .error refusal⟩

instance : Monad Attempt where
  pure := succeed
  bind := andThen

theorem andThen_succeed (attempt : Attempt α) : attempt.andThen succeed = attempt := by
  obtain ⟨notices, result⟩ := attempt
  cases result with
  | error refusal => rfl
  | ok value => simp only [andThen, succeed, List.append_nil]

theorem andThen_assoc {γ : Type} (attempt : Attempt α) (next : α → Attempt β)
    (last : β → Attempt γ) :
    (attempt.andThen next).andThen last =
      attempt.andThen fun value => (next value).andThen last := by
  obtain ⟨notices, result⟩ := attempt
  cases result with
  | error refusal => rfl
  | ok value =>
    simp only [andThen]
    cases (next value).result with
    | error refusal => rfl
    | ok value => simp only [List.append_assoc]

instance : LawfulMonad Attempt :=
  LawfulMonad.mk' Attempt andThen_succeed (fun _ _ => rfl) andThen_assoc

/-- A result with its notices as an attempt. -/
def ofNoted (noted : Noted α) : Attempt α := ⟨noted.notices, .ok noted.value⟩

/-- A computation that may fail as an attempt. -/
def ofExcept {ε : Type} (refusal : ε → Refusal) : Except ε α → Attempt α
  | .ok value => succeed value
  | .error fault => refuse (refusal fault)

end Attempt

end FieldRules
