import FieldRules.Notice
import FieldRules.Rule.Entries
import FieldRules.Rule.Reading

/-!
# Registration of groups

Named groups are read in order, and the first group that lists a key owns it.  A
later group that lists an owned key is refused as a whole, so none of its keys
is claimed by it.
-/

set_option autoImplicit false

namespace FieldRules

/-- The keys that are owned so far, each with the name of its owner. -/
abbrev Ownership := List (String × String)

namespace Ownership

/-- The keys of a group that are owned already, each once and with its owner. -/
def taken (owned : Ownership) (keys : List String) : List (String × String) :=
  (Schema.firstOccurrences keys).filterMap fun key =>
    (owned.lookup key).map fun owner => (key, owner)

/-- The ownership after a group has claimed its keys. -/
def claim (owned : Ownership) (group : Group) : Ownership :=
  owned ++ group.keys.map fun key => (key, group.name)

end Ownership

namespace Schema

/-- The outcome of a group that was read, given the keys that are owned already. -/
def settle (owned : Ownership) (name : String) (outcome : Outcome Group) : Outcome Group :=
  match outcome.result with
  | .error _ => outcome
  | .ok group =>
    let taken := owned.taken group.keys
    if taken.isEmpty then outcome
    else ⟨outcome.specification, outcome.kind, .error (.alreadyGrouped name taken)⟩

/-- The ownership after an outcome: a registered group claims its keys. -/
def ownedAfter (owned : Ownership) (outcome : Outcome Group) : Ownership :=
  match outcome.result with
  | .ok group => owned.claim group
  | .error _ => owned

/-- The outcomes of registering named groups in order, given the keys that are owned already. -/
def registerFrom (schema : Schema) (owned : Ownership) :
    List (String × String) → List (Outcome Group)
  | [] => []
  | (name, text) :: rest =>
    let outcome := settle owned name (Group.read schema name text)
    outcome :: registerFrom schema (ownedAfter owned outcome) rest

/-- The outcomes of registering named groups in order. -/
def registerGroups (schema : Schema) (specifications : List (String × String)) :
    List (Outcome Group) :=
  registerFrom schema [] specifications

/-- The outcomes of registering the groups of a schema. -/
def inspectGroups (schema : Schema) : List (Outcome Group) :=
  schema.registerGroups schema.groupTexts

end Schema

end FieldRules
