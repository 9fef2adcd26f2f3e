/-!
# Kinds of rules

A rule is written as an expression that opens with a keyword.  Three keywords
exist, one for each kind of rule; a text that opens with none of them is of the
kind `invalid`.  The kind of a text is the kind that its keyword announces, even
when the rest of the text is malformed.
-/

set_option autoImplicit false

namespace FieldRules

/-- The kind that a text announces. -/
inductive Kind where
  | requires
  | onlyOne
  | group
  | invalid
  deriving DecidableEq, Repr

/-- The name of a kind. -/
def Kind.name : Kind → String
  | .requires => "requires"
  | .onlyOne => "only_one"
  | .group => "group"
  | .invalid => "invalid"

/-- All kinds. -/
def Kind.all : List Kind := [.requires, .onlyOne, .group, .invalid]

/-- The kind with a name. -/
def Kind.ofName? (name : String) : Option Kind := all.find? fun kind => kind.name == name

/-- The kinds that are written as a list of keys. -/
inductive ListKind where
  | onlyOne
  | group
  deriving DecidableEq, Repr

namespace ListKind

/-- The kind of a list of keys as a kind of rule. -/
def toKind : ListKind → Kind
  | .onlyOne => .onlyOne
  | .group => .group

/-- The keyword that opens a list of keys. -/
def keyword : ListKind → String
  | .onlyOne => "OnlyOne"
  | .group => "Group"

/-- The least number of keys in a list; repeated keys count. -/
def minimum : ListKind → Nat
  | .onlyOne => 2
  | .group => 1

end ListKind

end FieldRules
