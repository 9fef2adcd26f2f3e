import FieldRules.Rule.Dependency
import FieldRules.Rule.Expression
import FieldRules.Text.Quoted

/-!
# Outcomes of reading a rule

Reading a rule against a schema ends in a dependency or in a failure.  A failure
is a cause; its code, its message and the keys it blames are read off the cause.
The outcome also keeps the text of the rule and the kind that the text
announced.
-/

set_option autoImplicit false

namespace FieldRules

/-! ## Failures -/

/-- Why a rule was not accepted. -/
inductive Failure where
  | malformedRequires
  | malformedKeys (kind : ListKind) (fault : ListFault)
  | unknownKeyword
  | missingProperties (keys : List String)
  | tooFewKeys (kind : ListKind) (keys : List String)
  | selfReference (key : String)
  | alreadyGrouped (name : String) (owners : List (String × String))
  | wrongKind (expected found : Kind)
  | misplacedGroup
  deriving DecidableEq, Repr

/-- The classes of failures. -/
inductive FailureCode where
  | malformed
  | unknownKeyword
  | missingProperty
  | tooFewKeys
  | selfReference
  | keyAlreadyGrouped
  | wrongKind
  deriving DecidableEq, Repr

/-- The name of a class of failures. -/
def FailureCode.name : FailureCode → String
  | .malformed => "malformed"
  | .unknownKeyword => "unknown_keyword"
  | .missingProperty => "missing_property"
  | .tooFewKeys => "too_few_keys"
  | .selfReference => "self_reference"
  | .keyAlreadyGrouped => "key_already_grouped"
  | .wrongKind => "wrong_kind"

/-- The name of the extension that holds requirements and choices. -/
def dependenciesExtension : String := "x-dependencies"

/-- The name of the extension that holds groups. -/
def groupsExtension : String := "x-property-groups"

/-- The wording for a malformed list of keys. -/
def ListFault.message (kind : ListKind) : ListFault → String
  | .terminator => "missing trailing ';'"
  | .parentheses => "expected '" ++ kind.keyword ++ "(<key>, ...);'"
  | .emptyKey => "empty key in list"

namespace Failure

/-- The class of a failure. -/
def code : Failure → FailureCode
  | .malformedRequires | .malformedKeys _ _ => .malformed
  | .unknownKeyword => .unknownKeyword
  | .missingProperties _ => .missingProperty
  | .tooFewKeys _ _ => .tooFewKeys
  | .selfReference _ => .selfReference
  | .alreadyGrouped _ _ => .keyAlreadyGrouped
  | .wrongKind _ _ | .misplacedGroup => .wrongKind

/-- The wording of a failure. -/
def message : Failure → String
  | .malformedRequires => "expected 'IF <key>[==<value>] THEN <key>[==<value>];'"
  | .malformedKeys kind fault => fault.message kind
  | .unknownKeyword => "expected IF, OnlyOne or Group"
  | .missingProperties keys => "unknown properties: " ++ ", ".intercalate keys
  | .tooFewKeys kind keys =>
    kind.toKind.name ++ " needs at least " ++ toString kind.minimum ++ " keys, got "
      ++ toString keys.length
  | .selfReference key => "'" ++ key ++ "' cannot require itself"
  | .alreadyGrouped name owners =>
    "group " ++ Text.quoted name ++ " reuses grouped properties: "
      ++ ", ".intercalate (owners.map fun (key, owner) => key ++ " -> " ++ Text.quoted owner)
  | .wrongKind expected found =>
    "expected a " ++ expected.name ++ " expression, got " ++ found.name
  | .misplacedGroup => "group expressions belong under " ++ groupsExtension

/-- The keys that a failure blames. -/
def keys : Failure → List String
  | .missingProperties keys | .tooFewKeys _ keys => keys
  | .selfReference key => [key]
  | .alreadyGrouped _ owners => owners.map Prod.fst
  | _ => []

end Failure

/-! ## Outcomes -/

/-- The outcome of reading a rule. -/
structure Outcome (α : Type) where
  specification : String
  kind : Kind
  result : Except Failure α

namespace Outcome

variable {α β : Type}

/-- The dependency of a successful outcome. -/
def value? (outcome : Outcome α) : Option α := outcome.result.toOption

/-- The cause of a failed outcome. -/
def failure? (outcome : Outcome α) : Option Failure :=
  match outcome.result with
  | .ok _ => none
  | .error failure => some failure

/-- An outcome with its dependency changed. -/
def map (f : α → β) (outcome : Outcome α) : Outcome β :=
  ⟨outcome.specification, outcome.kind, outcome.result.map f⟩

/-- The dependencies of the successful outcomes, in order. -/
def successes (outcomes : List (Outcome α)) : List α := outcomes.filterMap value?

end Outcome

end FieldRules
