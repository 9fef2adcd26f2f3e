import FieldRules.Yaml.Fault
import FieldRules.Yaml.Node

/-!
# Merged mappings

An entry of a mapping whose key is the merge sign takes over the entries of the
mapping that is its value, or of all mappings in the sequence that is its value,
the last of them first.  The entries that are taken over come before the
mapping's own.

Merging changes the document: the merge sign is gone afterwards, and a mapping
that is merged elsewhere is seen there with its merged entries.  A mapping that
merges itself, directly or through others, takes over the entries that it has at
that time.
-/

set_option autoImplicit false

namespace FieldRules.Yaml.Graph

/-- The entries before the first merge sign, the value of the merge sign, and the entries behind
it. -/
def splitAtMerge? (graph : Graph) :
    List (NodeId × NodeId) → Option (List (NodeId × NodeId) × NodeId × List (NodeId × NodeId))
  | [] => none
  | (key, value) :: entries =>
    if graph.tagOf key == .merge then some ([], value, entries)
    else (splitAtMerge? graph entries).map fun (before, source, behind) =>
      ((key, value) :: before, source, behind)

/-- The graph in which the keys that were the sign for a default value are plain texts. -/
def plainKeys (graph : Graph) (entries : List (NodeId × NodeId)) : Graph :=
  entries.foldl (fun current (key, _) =>
    if current.tagOf key == .value then current.setTag key .str else current) graph

/-- Whether a node is a mapping. -/
def isMapping (graph : Graph) (id : NodeId) : Bool :=
  match graph.contentOf id with
  | .mapping _ => true
  | _ => false

/-- The graph in which a mapping has taken over all entries that it merges; those taken over so
far are given.  Every step removes a merge sign, so their number bounds the steps. -/
def absorb : Nat → NodeId → List (NodeId × NodeId) → Graph → Except Fault Graph
  | 0, _, _, _ => .error .tooDeep
  | count + 1, id, taken, graph =>
    match splitAtMerge? graph (graph.entriesOf id) with
    | none =>
      let entries := taken ++ graph.entriesOf id
      .ok ((graph.setContent id (.mapping entries)).plainKeys entries)
    | some (before, source, behind) => do
      let reduced := graph.setContent id (.mapping (before ++ behind))
      match reduced.contentOf source with
      | .mapping _ => do
        let merged ← absorb count source [] reduced
        absorb count id (taken ++ merged.entriesOf source) merged
      | .sequence items => do
        let step (state : Graph × List (NodeId × NodeId)) (item : NodeId) :
            Except Fault (Graph × List (NodeId × NodeId)) := do
          if state.1.isMapping item then
            let merged ← absorb count item [] state.1
            return (merged, merged.entriesOf item ++ state.2)
          else throw .unreadable
        let (merged, entries) ← items.foldlM step (reduced, [])
        absorb count id (taken ++ entries) merged
      | .scalar _ => throw .unreadable

end FieldRules.Yaml.Graph
