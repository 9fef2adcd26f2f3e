import FieldRules.Value.SetOrder
import FieldRules.Yaml.Object

/-!
# Views of the objects in a YAML document

An object of a document is shown as a value.  An object that holds itself nowhere
is a finite tree, and its view is that tree; views of shared objects are shared.
An object that holds itself cannot be shown whole: its view goes down every path
until it comes to an object that it is already inside, and a mark stands there.

Where an object only has to be looked into, its parts that cannot be shown whole
are marks at once.
-/

set_option autoImplicit false

namespace FieldRules.Yaml

namespace Object

/-- The parts of an object in order. -/
def parts : Object → List NodeId
  | .leaf _ | .namedNan => []
  | .list items | .set items => items
  | .pairs entries | .map entries => entries.flatMap fun (key, value) => [key, value]

/-- The value of an object whose parts have the given values. -/
def toValue (part : NodeId → Value) : Object → Value
  | .leaf value => value
  | .namedNan => .float .nan
  | .list items => .list (items.map part)
  | .pairs entries => .list (entries.map fun (key, value) => .tuple [part key, part value])
  | .set members => .set (Value.arranged (members.map part))
  | .map entries => .map (entries.map fun (key, value) => (part key, part value))

/-- The mark for a container that is not shown; a set holds no container. -/
def mark : Object → Value
  | .map _ => .hiddenMap
  | _ => .hiddenList

end Object

/-! ## Whole objects -/

/-- The objects that have been visited, and the trees of those among them that are finite. -/
structure Survey where
  visited : Array Bool
  trees : Array (Option Value)

namespace Survey

/-- Nothing has been visited. -/
def start (objects : Objects) : Survey :=
  ⟨objects.map fun _ => false, objects.map fun _ => none⟩

/-- The tree of an object, if it is known. -/
def tree? (survey : Survey) (id : NodeId) : Option Value := survey.trees.getD id none

/-- Visit an object and all its parts.  An object is a tree when all its parts are; while it is
visited itself, it is none.  The count bounds the depth. -/
def visit (objects : Objects) : Nat → Survey → NodeId → Survey
  | 0, survey, _ => survey
  | count + 1, survey, id =>
    if survey.visited.getD id true then survey
    else
      let opened := { survey with visited := survey.visited.setIfInBounds id true }
      match objects.getD id none with
      | none => opened
      | some object =>
        let after := object.parts.foldl (visit objects count) opened
        if object.parts.all fun part => (after.tree? part).isSome then
          let tree := object.toValue fun part => (after.tree? part).getD .null
          { after with trees := after.trees.setIfInBounds id (some tree) }
        else after

end Survey

/-! ## Views -/

/-- The objects of a document with their trees, and the root among them. -/
structure View where
  objects : Objects
  trees : Array (Option Value)
  root : NodeId

namespace View

/-- The object with a number. -/
def object? (view : View) (id : NodeId) : Option Object := view.objects.getD id none

/-- The tree of an object that holds itself nowhere. -/
def tree? (view : View) (id : NodeId) : Option Value := view.trees.getD id none

/-- The mark for an object that is not shown. -/
def markOf (view : View) (id : NodeId) : Value := ((view.object? id).map Object.mark).getD .null

/-- An object as it is seen from inside others, which are given.  The count bounds the depth. -/
def seenFrom (view : View) : Nat → List NodeId → NodeId → Value
  | 0, _, id => view.markOf id
  | count + 1, outer, id =>
    match view.tree? id with
    | some tree => tree
    | none =>
      if outer.contains id then view.markOf id
      else
        match view.object? id with
        | some object => object.toValue (seenFrom view count (id :: outer))
        | none => .null

/-- An object as it is seen from outside. -/
def see (view : View) (id : NodeId) : Value := view.seenFrom (view.objects.size + 1) [] id

/-- An object with marks for those of its parts that cannot be shown whole. -/
def lookInto (view : View) (id : NodeId) : Value :=
  match view.object? id with
  | some object => object.toValue fun part => (view.tree? part).getD (view.markOf part)
  | none => .null

/-- The entries of an object that is a mapping, with the values of their keys. -/
def entries? (view : View) (id : NodeId) : Option (List (Value × NodeId)) :=
  match view.object? id with
  | some (.map entries) => some (entries.map fun (key, value) => (view.see key, value))
  | _ => none

/-- The view of the objects from a root on. -/
def ofGraph (graph : Graph) (root : NodeId) : Except Fault View := do
  let objects ← Objects.ofGraph graph root
  let survey := Survey.visit objects (objects.size + 1) (Survey.start objects) root
  return ⟨objects, survey.trees, root⟩

/-- The view of a text; there is none if the text holds no document. -/
def ofText (text : String) : Except Fault (Option View) := do
  let document ← Document.ofText text
  match document.root with
  | some root => return some (← ofGraph document.graph root)
  | none => return none

end View

end FieldRules.Yaml
