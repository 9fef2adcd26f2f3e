import FieldRules.Yaml.Tag

/-!
# Nodes of a YAML document

A document is made of nodes: scalars, sequences and mappings, each with a tag.  A
node may occur at several places, and inside itself too, since an alias stands
for the very node that its anchor names.  So the nodes are kept in one list and
refer to each other by their numbers there: a document is a graph.
-/

set_option autoImplicit false

namespace FieldRules.Yaml

/-- The number of a node in its document. -/
abbrev NodeId := Nat

/-- What a node holds. -/
inductive Content where
  | scalar (text : List Char)
  | sequence (items : List NodeId)
  | mapping (entries : List (NodeId × NodeId))

/-- A node of a document. -/
structure Node where
  tag : Tag
  content : Content

/-- The node that stands where nothing is written: null. -/
def Node.empty : Node := ⟨.null, .scalar []⟩

/-- The nodes of a document by number. -/
structure Graph where
  nodes : Array Node

namespace Graph

/-- No nodes. -/
def empty : Graph := ⟨#[]⟩

/-- The node with a number. -/
def node (graph : Graph) (id : NodeId) : Node := graph.nodes.getD id .empty

/-- The tag of a node. -/
def tagOf (graph : Graph) (id : NodeId) : Tag := (graph.node id).tag

/-- What a node holds. -/
def contentOf (graph : Graph) (id : NodeId) : Content := (graph.node id).content

/-- The graph with one more node, whose number is the number of nodes before. -/
def add (graph : Graph) (node : Node) : Graph := ⟨graph.nodes.push node⟩

/-- The graph in which a node holds something else. -/
def setContent (graph : Graph) (id : NodeId) (content : Content) : Graph :=
  ⟨graph.nodes.setIfInBounds id { graph.node id with content := content }⟩

/-- The graph in which a node has another tag. -/
def setTag (graph : Graph) (id : NodeId) (tag : Tag) : Graph :=
  ⟨graph.nodes.setIfInBounds id { graph.node id with tag := tag }⟩

/-- The entries of a mapping; other nodes have none. -/
def entriesOf (graph : Graph) (id : NodeId) : List (NodeId × NodeId) :=
  match graph.contentOf id with
  | .mapping entries => entries
  | _ => []

/-- The number of entries of all mappings. -/
def entryCount (graph : Graph) : Nat :=
  graph.nodes.foldl (fun total node =>
    match node.content with
    | .mapping entries => total + entries.length
    | _ => total) 0

end Graph

end FieldRules.Yaml
