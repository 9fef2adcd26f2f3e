import FieldRules.Group.Registration
import FieldRules.Settings

/-!
# Assembly of groups

The declared properties are laid out as groups.  The properties are visited in
order of declaration; the first key of a group that is met places the whole
group, and its other keys need no place any more.  A property that no group
lists is placed alone.

The layout does not depend on whether properties placed alone are shown.  Showing
them turns each into a group of one key under its display name.

Any lists of keys can be assembled, also ones that overlap: a key belongs to the
first list that holds it, unless a list that was placed before holds it too.
-/

set_option autoImplicit false

namespace FieldRules

/-- What stands at a place of the layout: a group, or a property in no group. -/
inductive Placement (γ : Type) where
  | group (group : γ)
  | alone (property : Property)

/-- The entry that a placement shows, if properties placed alone are shown as `single` says. -/
def Placement.show? {γ : Type} (single : Property → Option γ) : Placement γ → Option γ
  | .group listed => some listed
  | .alone property => single property

/-- The first list of keys that holds a key. -/
def ownerOf? {γ : Type} [Keyed γ] (groups : List γ) (key : String) : Option γ :=
  groups.find? fun group => (Keyed.keys group).contains key

/-- The layout of the properties that are left, given the keys that have a place already. -/
def layoutFrom {γ : Type} [Keyed γ] (groups : List γ) (placed : List String) :
    List Property → List (Placement γ)
  | [] => []
  | property :: rest =>
    if placed.contains property.key then layoutFrom groups placed rest
    else
      match ownerOf? groups property.key with
      | some owner => .group owner :: layoutFrom groups (Keyed.keys owner ++ placed) rest
      | none => .alone property :: layoutFrom groups (property.key :: placed) rest

namespace Schema

/-- The layout of the declared properties. -/
def layout {γ : Type} [Keyed γ] (schema : Schema) (groups : List γ) : List (Placement γ) :=
  layoutFrom groups [] schema.properties.toList

/-- The group of a single property, under its display name. -/
def singleton (property : Property) : Group := ⟨property.displayName, [property.key]⟩

/-- The groups in order of the layout; properties placed alone are shown as `single` says. -/
def assemble {γ : Type} [Keyed γ] (schema : Schema) (groups : List γ)
    (single : Property → Option γ) : List γ :=
  (schema.layout groups).filterMap (Placement.show? single)

/-- The groups in order of the layout, with or without groups of single properties. -/
def assembleGroups (schema : Schema) (groups : List Group) (includeSingletons : Bool) :
    List Group :=
  schema.assemble groups fun property =>
    if includeSingletons then some (singleton property) else none

/-- The groups of a schema, laid out in order of declaration.  Whether groups of single properties
are included is asked for or left to the settings. -/
def extractGroups (schema : Schema) (settings : Settings) (includeSingletons : Option Bool) :
    Noted (List Group) :=
  let outcomes := schema.inspectGroups
  ⟨Notice.ofOutcomes settings.noteDropped .groups outcomes,
    schema.assembleGroups (Outcome.successes outcomes)
      (includeSingletons.getD settings.includeSingletons)⟩

end Schema

end FieldRules
