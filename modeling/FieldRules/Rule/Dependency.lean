import FieldRules.Rule.Literal

/-!
# Dependencies between properties

The meaning of a rule.  A requirement says that a property needs another one,
possibly only at one value and then with one value.  A choice says that exactly
one of its keys is to be given.  A group says that its keys belong together
under a name.

Keys are kept as they were listed, with repetitions.
-/

set_option autoImplicit false

namespace FieldRules

/-- A requirement: a property, constrained to a literal or not, needs another. -/
structure Requires where
  prerequisiteKey : String
  prerequisiteValue : Option Literal
  dependantKey : String
  dependantValue : Option Literal
  deriving DecidableEq

/-- The two keys of a requirement. -/
def Requires.keys (rule : Requires) : List String := [rule.prerequisiteKey, rule.dependantKey]

/-- A choice among keys. -/
structure OnlyOne where
  keys : List String
  deriving DecidableEq, Repr

/-- A named group of keys. -/
structure Group where
  name : String
  keys : List String
  deriving DecidableEq, Repr

/-- A dependency of one of the three kinds. -/
inductive Dependency where
  | requires (rule : Requires)
  | onlyOne (rule : OnlyOne)
  | group (rule : Group)
  deriving DecidableEq

/-- Types whose members list property keys. -/
class Keyed (γ : Type) where
  keys : γ → List String

instance : Keyed OnlyOne := ⟨OnlyOne.keys⟩

instance : Keyed Group := ⟨Group.keys⟩

end FieldRules
