import FieldRules.Value.Display
import FieldRules.Yaml.Node
import FieldRules.Yaml.Token

/-!
# YAML documents

The tokens of a text make up one document.  Its nodes are numbered in the order in
which they start, a collection before what it holds.  An alias stands for the node
that an anchor before it has named; a collection has its name already inside
itself.

A reader looks at the next token only where the grammar has to know it, because a
fault of the text comes to light with the token that cannot be read.  Each call
takes a token or is nested a bounded number of times before one is taken, so the
number of tokens bounds the depth.
-/

set_option autoImplicit false

namespace FieldRules.Yaml

/-- A document: its nodes, and its root unless the text is empty. -/
structure Document where
  graph : Graph
  root : Option NodeId

namespace Document

/-! ## The state of the reader -/

/-- What tag handles stand for. -/
abbrev Handles := List (String × String)

/-- The handles that are known without a directive. -/
def standardHandles : Handles := [("!", "!"), ("!!", Tag.standard)]

/-- The state of the reader: the tokens to be read, the tag handles, the named nodes, the nodes so
far, and how many collections may still be nested into each other. -/
structure State where
  tokens : List Token
  handles : Handles
  anchors : List (String × NodeId)
  graph : Graph
  room : Nat

/-- How deeply collections may be nested.  Reading one takes two nested calls, one for the node and
one for the collection that it turns out to be. -/
def deepest : Nat := Value.callRoom / 2

/-- The state in front of a document. -/
def State.start (tokens : List Token) : State := ⟨tokens, standardHandles, [], .empty, deepest⟩

/-- What reads a part of a document. -/
abbrev Reader := StateT State (Except Fault)

/-- The next token, if there is one. -/
def peek : Reader (Option Token) := do
  match (← get).tokens.head? with
  | some (.broken fault) => throw fault
  | token => return token

/-- Go on behind the next token. -/
def advance : Reader Unit := modify fun state => { state with tokens := state.tokens.tail }

/-- Whether the next token is one of the given ones. -/
def isAt (tokens : List Token) : Reader Bool := return (← peek).any tokens.contains

/-- Go on behind the next token, which has to be the given one. -/
def expect (token : Token) : Reader Unit := do
  if ← isAt [token] then advance else throw .unreadable

/-- The node with a name. -/
def named (name : String) : Reader NodeId := do
  match (← get).anchors.lookup name with
  | some id => return id
  | none => throw .unreadable

/-- Refuse a name that has been given before. -/
def requireFresh (anchor : Option String) : Reader Unit := do
  let state ← get
  if anchor.any fun name => (state.anchors.lookup name).isSome then throw .unreadable

/-- Add a node, with a name if one is given. -/
def addNode (anchor : Option String) (node : Node) : Reader NodeId := do
  let state ← get
  let id := state.graph.nodes.size
  let anchors := match anchor with
    | some name => (name, id) :: state.anchors
    | none => state.anchors
  set { state with graph := state.graph.add node, anchors := anchors }
  return id

/-- Add the node that stands where nothing is written. -/
def addEmpty : Reader NodeId := addNode none .empty

/-- Add a collection, whose content is then read. -/
def addCollection (anchor : Option String) (tag : Tag) (content : Reader Content) :
    Reader NodeId := do
  let id ← addNode anchor ⟨tag, .sequence []⟩
  if (← get).room == 0 then throw .tooDeep
  modify fun state => { state with room := state.room - 1 }
  let read ← content
  modify fun state =>
    { state with graph := state.graph.setContent id read, room := state.room + 1 }
  return id

/-! ## Properties -/

/-- The anchor and the tag in front of a node. -/
structure Properties where
  anchor : Option String
  tag : Option (Option String × String)

/-- Read the anchor and the tag in front of a node, in either order. -/
def readProperties : Reader Properties := do
  match ← peek with
  | some (.anchor name) => do
    advance
    match ← peek with
    | some (.tag handle suffix) => do
      advance
      return ⟨some name, some (handle, suffix)⟩
    | _ => return ⟨some name, none⟩
  | some (.tag handle suffix) => do
    advance
    match ← peek with
    | some (.anchor name) => do
      advance
      return ⟨some name, some (handle, suffix)⟩
    | _ => return ⟨none, some (handle, suffix)⟩
  | _ => return ⟨none, none⟩

/-- The full name of a tag; a handle has to be known. -/
def fullName : Option (Option String × String) → Reader (Option String)
  | none => return none
  | some (none, suffix) => return some suffix
  | some (some handle, suffix) => do
    match (← get).handles.lookup handle with
    | some start => return some (start ++ suffix)
    | none => throw .unreadable

/-- The tag of a scalar.  A plain scalar without a tag has the tag of its form, and so has every
scalar with the tag of a lone exclamation mark. -/
def scalarTag (name : Option String) (plain : Bool) (text : List Char) : Tag :=
  match name with
  | none => if plain then Tag.ofForm text else .str
  | some "!" => Tag.ofForm text
  | some full => Tag.ofName full

/-- The tag of a collection, which has a default. -/
def collectionTag (name : Option String) (default : Tag) : Tag :=
  match name with
  | none => default
  | some "!" => default
  | some full => Tag.ofName full

/-! ## Nodes -/

mutual
/-- Read a node.  The flags tell whether block collections may stand here, and whether a sequence
may stand here without being indented.  With properties, a node may be empty. -/
def readNode (block indentless : Bool) : Nat → Reader NodeId
  | 0 => throw .unreadable
  | count + 1 => do
    match ← peek with
    | some (.alias name) => do
      advance
      named name
    | _ => do
      let properties ← readProperties
      let name ← fullName properties.tag
      let token ← peek
      requireFresh properties.anchor
      let sequence (items : Reader (List NodeId)) : Reader NodeId :=
        addCollection properties.anchor (collectionTag name .seq) (Content.sequence <$> items)
      let mapping (entries : Reader (List (NodeId × NodeId))) : Reader NodeId :=
        addCollection properties.anchor (collectionTag name .map) (Content.mapping <$> entries)
      match token with
      | some (.scalar plain text) => do
        advance
        addNode properties.anchor ⟨scalarTag name plain text, .scalar text⟩
      | some .flowSequenceStart => do
        advance
        sequence (readFlowItems true count)
      | some .flowMappingStart => do
        advance
        mapping (readFlowEntries true count)
      | _ =>
        if indentless && token == some .blockEntry then sequence (readIndentlessItems count)
        else if block && token == some .blockSequenceStart then do
          advance
          sequence (readBlockItems count)
        else if block && token == some .blockMappingStart then do
          advance
          mapping (readBlockEntries count)
        else if properties.anchor.isSome || properties.tag.isSome then
          addNode properties.anchor ⟨scalarTag name true [], .scalar []⟩
        else throw .unreadable

/-- Read a node unless one of the given tokens stands here, which leave it empty. -/
def readUnless (block indentless : Bool) (stops : List Token) : Nat → Reader NodeId
  | 0 => throw .unreadable
  | count + 1 => do
    if ← isAt stops then addEmpty else readNode block indentless count

/-- Read the value of a key behind its colon; without a colon the value is empty. -/
def readValue (block indentless : Bool) (stops : List Token) : Nat → Reader NodeId
  | 0 => throw .unreadable
  | count + 1 => do
    if ← isAt [.value] then do
      advance
      readUnless block indentless stops count
    else addEmpty

/-- Read the items of a block sequence to its end. -/
def readBlockItems : Nat → Reader (List NodeId)
  | 0 => throw .unreadable
  | count + 1 => do
    if ← isAt [.blockEntry] then do
      advance
      let item ← readUnless true false [.blockEntry, .blockEnd] count
      let others ← readBlockItems count
      return item :: others
    else do
      expect .blockEnd
      return []

/-- Read the items of a sequence that is not indented; it ends with its last item. -/
def readIndentlessItems : Nat → Reader (List NodeId)
  | 0 => throw .unreadable
  | count + 1 => do
    if ← isAt [.blockEntry] then do
      advance
      let item ← readUnless true false [.blockEntry, .key, .value, .blockEnd] count
      let others ← readIndentlessItems count
      return item :: others
    else return []

/-- Read the entries of a block mapping to its end. -/
def readBlockEntries : Nat → Reader (List (NodeId × NodeId))
  | 0 => throw .unreadable
  | count + 1 => do
    if ← isAt [.key] then do
      advance
      let key ← readUnless true true [.key, .value, .blockEnd] count
      let value ← readValue true true [.key, .value, .blockEnd] count
      let others ← readBlockEntries count
      return (key, value) :: others
    else do
      expect .blockEnd
      return []

/-- Read the items of a flow sequence to its closing sign.  All but the first follow a comma, and
one may follow the last item too.  An entry without braces is a mapping of its own. -/
def readFlowItems (first : Bool) : Nat → Reader (List NodeId)
  | 0 => throw .unreadable
  | count + 1 => do
    if ← isAt [.flowSequenceEnd] then do
      advance
      return []
    else do
      if !first then expect .flowEntry
      if ← isAt [.flowSequenceEnd] then do
        advance
        return []
      else do
        let item ←
          if ← isAt [.key] then
            addCollection none .map (Content.mapping <$> readSinglePair count)
          else readNode false false count
        let others ← readFlowItems false count
        return item :: others

/-- Read the entry of a flow sequence that is a mapping of its own. -/
def readSinglePair : Nat → Reader (List (NodeId × NodeId))
  | 0 => throw .unreadable
  | count + 1 => do
    advance
    let key ← readUnless false false [.value, .flowEntry, .flowSequenceEnd] count
    let value ← readValue false false [.flowEntry, .flowSequenceEnd] count
    return [(key, value)]

/-- Read the entries of a flow mapping to its closing sign.  A node without a sign for a key is a
key without a value. -/
def readFlowEntries (first : Bool) : Nat → Reader (List (NodeId × NodeId))
  | 0 => throw .unreadable
  | count + 1 => do
    if ← isAt [.flowMappingEnd] then do
      advance
      return []
    else do
      if !first then expect .flowEntry
      if ← isAt [.flowMappingEnd] then do
        advance
        return []
      else do
        let entry ←
          if ← isAt [.key] then do
            advance
            let key ← readUnless false false [.value, .flowEntry, .flowMappingEnd] count
            let value ← readValue false false [.flowEntry, .flowMappingEnd] count
            pure (key, value)
          else do
            let key ← readNode false false count
            let _ ← peek
            let value ← addEmpty
            pure (key, value)
        let others ← readFlowEntries false count
        return entry :: others
end

/-! ## Documents -/

/-- Whether a token starts or ends a document. -/
def isDocumentSign : Token → Bool
  | .version _ | .handle _ _ | .otherDirective | .documentStart | .documentEnd => true
  | _ => false

/-- Read the directives in front of a document: at most one version, which has to be of the first
major version, and handles, each declared once.  The count bounds the steps. -/
def readDirectives (versioned : Bool) (declared : Handles) : Nat → Reader Handles
  | 0 => throw .unreadable
  | count + 1 => do
    match ← peek with
    | some (.version major) => do
      advance
      if versioned || major != 1 then throw .unreadable
      readDirectives true declared count
    | some (.handle name replacement) => do
      advance
      if (declared.lookup name).isSome then throw .unreadable
      readDirectives versioned ((name, replacement) :: declared) count
    | some .otherDirective => do
      advance
      readDirectives versioned declared count
    | _ => return declared

/-- Read the root of a document. -/
def readRoot : Reader NodeId := do
  readNode true false (8 * ((← get).tokens.length + 2))

/-- Read a document with directives and an opening mark.  Its root may be missing. -/
def readMarked : Reader NodeId := do
  let declared ← readDirectives false [] ((← get).tokens.length + 1)
  expect .documentStart
  modify fun state => { state with handles := declared ++ standardHandles }
  if (← peek).all isDocumentSign then addEmpty else readRoot

/-- Go on behind closing marks.  The count bounds the steps. -/
def skipClosingMarks : Nat → Reader Unit
  | 0 => return
  | count + 1 => do
    if ← isAt [.documentEnd] then do
      advance
      skipClosingMarks count

/-- Refuse another document behind the first. -/
def requireEnd : Reader Unit := do
  skipClosingMarks ((← get).tokens.length + 1)
  if (← peek).isSome then do
    let _ ← readDirectives false [] ((← get).tokens.length + 1)
    throw .unreadable

/-- Read the single document that the tokens make up, if there is a document at all.  A closing
mark cannot come first. -/
def readAll : Reader (Option NodeId) := do
  match ← peek with
  | none => return none
  | some first => do
    let root ← if isDocumentSign first then readMarked else readRoot
    requireEnd
    return some root

/-- The document that tokens make up. -/
def ofTokens (tokens : List Token) : Except Fault Document := do
  let (root, state) ← readAll.run (State.start tokens)
  return ⟨state.graph, root⟩

/-- The document that a text makes up. -/
def ofText (text : String) : Except Fault Document := ofTokens (Token.ofText text.toList)

end Document

end FieldRules.Yaml
