import FieldRules.Yaml.Document
import FieldRules.Yaml.Merge
import FieldRules.Yaml.Scalar

/-!
# Objects of a YAML document

Every node of a document stands for an object according to its tag: a scalar for
a value, a collection for a container of objects.  A node that occurs at several
places stands for one object, so objects refer to each other by the numbers of
their nodes.

Containers are made empty when they are met and filled later, in the order in
which they were met.  Since a text with several faults is refused for the one
that is met first, this order is part of what a text means; and so is the order
of merging, which changes the nodes that are merged.
-/

set_option autoImplicit false

namespace FieldRules.Yaml

/-- What a node stands for.  The not-a-number with a name is one object wherever it is named. -/
inductive Object where
  | leaf (value : Value)
  | namedNan
  | list (items : List NodeId)
  | pairs (entries : List (NodeId × NodeId))
  | set (members : List NodeId)
  | map (entries : List (NodeId × NodeId))

namespace Object

/-- Whether an object can be a key: containers cannot. -/
def isHashable : Object → Bool
  | .leaf value => value.isHashable
  | .namedNan => true
  | .list _ | .pairs _ | .set _ | .map _ => false

/-- Whether two different nodes stand for the same key. -/
def sameKey : Object → Object → Bool
  | .namedNan, .namedNan => true
  | .leaf left, .leaf right => Value.same left right
  | _, _ => false

end Object

/-! ## Scalars -/

/-- The text of a node that has to be a scalar.  A mapping stands for its default value.  The
count bounds the steps. -/
def Graph.scalarText (graph : Graph) : Nat → NodeId → Except Fault (List Char)
  | 0, _ => .error .tooDeep
  | count + 1, id =>
    match graph.contentOf id with
    | .scalar text => .ok text
    | .sequence _ => .error .unreadable
    | .mapping entries =>
      match entries.find? fun entry => graph.tagOf entry.1 == .value with
      | some (_, value) => scalarText graph count value
      | none => .error .unreadable

/-- The object of a node with the tag of a scalar.  A timestamp has to be written as a scalar
itself. -/
def Graph.scalarObject (graph : Graph) (id : NodeId) : Except Fault Object := do
  let text ← graph.scalarText (graph.nodes.size + 1) id
  match graph.tagOf id with
  | .float => if namesNan text then return .namedNan else return .leaf (← readScalar .float text)
  | .timestamp =>
    if graph.isMapping id then throw .timestampOfMapping
    else return .leaf (← readScalar .timestamp text)
  | tag => return .leaf (← readScalar tag text)

/-! ## The state of the builder -/

/-- The state of the builder: the nodes, the objects made so far, and the containers that are
still to be filled, the last one first. -/
structure Builder where
  graph : Graph
  objects : Array (Option Object)
  waiting : List NodeId

namespace Builder

/-- What builds a part of the objects. -/
abbrev Build := StateT Builder (Except Fault)

/-- The object of a node, if it has been made. -/
def object? (builder : Builder) (id : NodeId) : Option Object := builder.objects.getD id none

/-- Keep the object of a node. -/
def keep (id : NodeId) (object : Object) : Build Unit :=
  modify fun builder => { builder with objects := builder.objects.setIfInBounds id (some object) }

/-- Keep an empty container for a node, to be filled later. -/
def await (id : NodeId) (container : Object) : Build Unit := do
  keep id container
  modify fun builder => { builder with waiting := id :: builder.waiting }

/-- Make the object of a node unless it has been made. -/
def touch (id : NodeId) : Build Unit := do
  let builder ← get
  if (builder.object? id).isSome then return
  match builder.graph.tagOf id with
  | .seq => await id (.list [])
  | .omap | .pairs => await id (.pairs [])
  | .set => await id (.set [])
  | .map => await id (.map [])
  | .merge | .value | .unknown => throw .unreadable
  | _ => keep id (← builder.graph.scalarObject id)

/-! ## Filling containers -/

/-- Whether two nodes stand for the same key. -/
def sameKey (builder : Builder) (left right : NodeId) : Bool :=
  left == right ||
    match builder.object? left, builder.object? right with
    | some leftObject, some rightObject => leftObject.sameKey rightObject
    | _, _ => false

/-- Entries with one more assignment: the same key keeps its place and its node and takes the new
value, a new key goes to the end. -/
def assign (builder : Builder) (key value : NodeId) :
    List (NodeId × NodeId) → List (NodeId × NodeId)
  | [] => [(key, value)]
  | (old, current) :: rest =>
    if builder.sameKey old key then (old, value) :: rest
    else (old, current) :: assign builder key value rest

/-- Make the objects of an entry and assign it.  The key has to be hashable, which is settled
before its value is looked at. -/
def addEntry (entries : List (NodeId × NodeId)) (entry : NodeId × NodeId) :
    Build (List (NodeId × NodeId)) := do
  touch entry.1
  if !((← get).object? entry.1).any Object.isHashable then throw .unreadable
  touch entry.2
  return (← get).assign entry.1 entry.2 entries

/-- The entries of a node that has to be a mapping, with those that it merges. -/
def readEntries (id : NodeId) : Build (List (NodeId × NodeId)) := do
  let graph := (← get).graph
  if !graph.isMapping id then throw .unreadable
  let merged ← graph.absorb (graph.entryCount + 2) id []
  modify fun builder => { builder with graph := merged }
  (merged.entriesOf id).foldlM addEntry []

/-- The items of a node that has to be a sequence. -/
def readItems (id : NodeId) : Build (List NodeId) := do
  match (← get).graph.contentOf id with
  | .sequence items => return items
  | _ => throw .unreadable

/-- The entry of a node that has to be a mapping with one entry. -/
def readPair (id : NodeId) : Build (NodeId × NodeId) := do
  match (← get).graph.contentOf id with
  | .mapping [(key, value)] => do
    touch key
    touch value
    return (key, value)
  | _ => throw .unreadable

/-- Fill the container of a node. -/
def fill (id : NodeId) : Build Unit := do
  match (← get).graph.tagOf id with
  | .seq => do
    let items ← readItems id
    items.forM touch
    keep id (.list items)
  | .omap | .pairs => do
    let items ← readItems id
    keep id (.pairs (← items.mapM readPair))
  | .set => do
    let entries ← readEntries id
    keep id (.set (entries.map Prod.fst))
  | _ => do
    let entries ← readEntries id
    keep id (.map entries)

/-- Fill the waiting containers, and those that are met on the way, in rounds.  Every round fills
a container that was empty before, so the number of nodes bounds the rounds. -/
def fillAll : Nat → Build Unit
  | 0 => return
  | count + 1 => do
    let waiting := (← get).waiting
    if waiting.isEmpty then return
    modify fun builder => { builder with waiting := [] }
    waiting.reverse.forM fill
    fillAll count

/-- Make the object of a root and all objects in it. -/
def build (root : NodeId) : Build Unit := do
  touch root
  fillAll ((← get).graph.nodes.size + 1)

end Builder

/-- The objects of a document by the numbers of their nodes. -/
abbrev Objects := Array (Option Object)

/-- The objects of a graph, from a root on. -/
def Objects.ofGraph (graph : Graph) (root : NodeId) : Except Fault Objects := do
  let start : Builder := ⟨graph, graph.nodes.map fun _ => none, []⟩
  let (_, builder) ← (Builder.build root).run start
  return builder.objects

end FieldRules.Yaml
