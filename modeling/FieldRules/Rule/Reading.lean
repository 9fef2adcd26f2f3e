import FieldRules.Rule.Outcome

/-!
# Reading rules against a schema

A text is recognised as an expression and then resolved against the declared
properties.  Each kind of rule has its own reader, which refuses expressions of
the other kinds.

The causes of failure are tested in a fixed order: what the text is recognised
as, its kind, the number of keys of a list, undeclared keys, and last, for a
requirement, whether its two keys differ.  Only a requirement has literals, so
only its reader can meet an integer that is too long to be read.
-/

set_option autoImplicit false

namespace FieldRules

namespace Expression

/-- The failure of an expression that was not recognised, or that is of another kind than the
expected one. -/
def refusal (expected : Kind) : Expression → Failure
  | .malformedRequires => .malformedRequires
  | .malformedKeys kind fault => .malformedKeys kind fault
  | .unknownKeyword => .unknownKeyword
  | .requires _ _ => .wrongKind expected .requires
  | .keys kind _ => .wrongKind expected kind.toKind

/-- The requirement that two sides state about a schema.  Each literal is typed by the property of
its own side. -/
def resolveSides (schema : Schema) (prerequisite dependant : Side) :
    Except DigitFault (Except Failure Requires) :=
  let missing := schema.undeclared [prerequisite.key, dependant.key]
  if !missing.isEmpty then .ok (.error (.missingProperties missing))
  else if prerequisite.key == dependant.key then .ok (.error (.selfReference prerequisite.key))
  else do
    let typeOf (key : String) := (schema.property? key).bind (·.type)
    let prerequisiteValue ← Literal.read (typeOf prerequisite.key) prerequisite.literal
    let dependantValue ← Literal.read (typeOf dependant.key) dependant.literal
    return .ok ⟨prerequisite.key, prerequisiteValue, dependant.key, dependantValue⟩

/-- The keys of a list, if there are enough of them and all are declared. -/
def resolveKeys (schema : Schema) (kind : ListKind) (keys : List String) :
    Except Failure (List String) :=
  if keys.length < kind.minimum then .error (.tooFewKeys kind keys)
  else
    let missing := schema.undeclared keys
    if missing.isEmpty then .ok keys else .error (.missingProperties missing)

/-- Resolve an expression as a requirement. -/
def toRequires (schema : Schema) (text : String) (expression : Expression) :
    Except DigitFault (Outcome Requires) :=
  match expression with
  | .requires prerequisite dependant =>
    (resolveSides schema prerequisite dependant).map fun result => ⟨text, .requires, result⟩
  | other => .ok ⟨text, other.kind, .error (other.refusal .requires)⟩

/-- Resolve an expression as a choice. -/
def toOnlyOne (schema : Schema) (text : String) (expression : Expression) : Outcome OnlyOne :=
  match expression with
  | .keys .onlyOne listed => ⟨text, .onlyOne, (resolveKeys schema .onlyOne listed).map .mk⟩
  | other => ⟨text, other.kind, .error (other.refusal .onlyOne)⟩

/-- Resolve an expression as a group with a name.  A choice is taken too, with the least number of
keys that a choice has. -/
def toGroup (schema : Schema) (name text : String) (expression : Expression) : Outcome Group :=
  match expression with
  | .keys listKind listed =>
    ⟨text, listKind.toKind, (resolveKeys schema listKind listed).map (.mk name)⟩
  | other => ⟨text, other.kind, .error (other.refusal .group)⟩

end Expression

/-- Read a requirement. -/
def Requires.read (schema : Schema) (text : String) : Except DigitFault (Outcome Requires) :=
  (Expression.ofText text).toRequires schema text

/-- Read a choice. -/
def OnlyOne.read (schema : Schema) (text : String) : Outcome OnlyOne :=
  (Expression.ofText text).toOnlyOne schema text

/-- Read a group under a name. -/
def Group.read (schema : Schema) (name text : String) : Outcome Group :=
  (Expression.ofText text).toGroup schema name text

end FieldRules
