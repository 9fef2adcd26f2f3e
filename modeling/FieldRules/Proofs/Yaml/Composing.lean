import FieldRules.Proofs.Yaml.Scanning
import FieldRules.Yaml.Document

/-!
# Faults of documents

What can go wrong when the tokens of a text are put together to a document.
Besides the faults of tokens, there is a depth to which collections may be nested
(`Document.ofText_ends`).

The readers of the parts of a node call each other, and each call has a count one
less.  So the statement is proved for all of them together, by induction on the
count (`Document.ComposesAll`).
-/

set_option autoImplicit false

namespace FieldRules.Yaml

/-- The faults that come to light when a text is read as a document: those of its tokens, and
collections that are nested too deeply. -/
inductive Fault.OfDocument : Fault → Prop
  | token {fault : Fault} (ofToken : fault.OfToken) : OfDocument fault
  | tooDeep : OfDocument .tooDeep

namespace Document

theorem unreadable : Fault.OfDocument .unreadable := .token .unreadable

/-- The tokens to be read are sound. -/
def State.Sound (state : State) : Prop := ∀ token ∈ state.tokens, token.IsSound

/-- A reader that takes sound tokens and ends with a fault of a document at most. -/
abbrev Composes {α : Type} (reader : Reader α) : Prop :=
  Keeps State.Sound Fault.OfDocument reader

/-! ## Small readers -/

theorem composes_peek : Composes peek := by
  refine Keeps.get_bind fun state sound => ?_
  split
  · next fault first => exact .throw (.token (sound _ (List.mem_of_mem_head? first)))
  · exact .pure _

theorem composes_advance : Composes advance :=
  Keeps.modify fun _ sound token member => sound token (List.mem_of_mem_tail member)

/-- A change of the state that leaves the tokens alone. -/
theorem composes_modify {change : State → State}
    (same : ∀ state, (change state).tokens = state.tokens) : Composes (modify change) := by
  apply Keeps.modify
  intro state sound token member
  rw [same] at member
  exact sound token member

theorem composes_isAt (tokens : List Token) : Composes (isAt tokens) :=
  composes_peek.bind fun _ => .pure _

theorem composes_expect (token : Token) : Composes (expect token) :=
  (composes_isAt [token]).bind fun _ => .ite (fun _ => composes_advance) fun _ => .throw unreadable

theorem composes_named (name : String) : Composes (named name) := by
  refine Keeps.get_bind fun state _ => ?_
  split
  · exact .pure _
  · exact .throw unreadable

theorem composes_requireFresh (anchor : Option String) : Composes (requireFresh anchor) :=
  Keeps.get_bind fun _ _ => .ite (fun _ => .throw unreadable) fun _ => .pure _

theorem composes_addNode (anchor : Option String) (node : Node) :
    Composes (addNode anchor node) := by
  refine Keeps.get_bind fun state sound => ?_
  refine Keeps.bind (Keeps.set ?_) fun _ => .pure _
  exact sound

theorem composes_addEmpty : Composes addEmpty := composes_addNode none .empty

theorem composes_addCollection (anchor : Option String) (tag : Tag) {content : Reader Content}
    (composes : Composes content) : Composes (addCollection anchor tag content) := by
  refine (composes_addNode anchor _).bind fun id => Keeps.get_bind fun state _ => ?_
  refine .ite (fun _ => .throw_bind .tooDeep _) fun _ => ?_
  refine Keeps.bind (composes_modify fun _ => rfl) fun _ => composes.bind fun read => ?_
  exact Keeps.bind (composes_modify fun _ => rfl) fun _ => .pure _

theorem composes_readProperties : Composes readProperties := by
  refine composes_peek.bind fun first => ?_
  split
  · refine composes_advance.bind fun _ => composes_peek.bind fun second => ?_
    split
    · exact composes_advance.bind fun _ => .pure _
    · exact .pure _
  · refine composes_advance.bind fun _ => composes_peek.bind fun second => ?_
    split
    · exact composes_advance.bind fun _ => .pure _
    · exact .pure _
  · exact .pure _

theorem composes_fullName (tag : Option (Option String × String)) : Composes (fullName tag) := by
  unfold fullName
  split
  · exact .pure _
  · exact .pure _
  · refine Keeps.get_bind fun state _ => ?_
    split
    · exact .pure _
    · exact .throw unreadable

/-! ## Nodes -/

/-- All but the first member of a flow collection follow a comma. -/
theorem composes_afterComma {α : Type} (first : Bool) {rest : Unit → Reader α}
    (composes : Composes (rest ())) :
    Composes (if (!first) = true then expect .flowEntry >>= rest else rest ()) :=
  .ite (fun _ => (composes_expect _).bind fun _ => composes) fun _ => composes

/-- All readers of parts of a node compose, with a count. -/
structure ComposesAll (count : Nat) : Prop where
  node : ∀ block indentless, Composes (readNode block indentless count)
  orEmpty : ∀ block indentless stops, Composes (readUnless block indentless stops count)
  value : ∀ block indentless stops, Composes (readValue block indentless stops count)
  blockItems : Composes (readBlockItems count)
  indentlessItems : Composes (readIndentlessItems count)
  blockEntries : Composes (readBlockEntries count)
  flowItems : ∀ first, Composes (readFlowItems first count)
  singlePair : Composes (readSinglePair count)
  flowEntries : ∀ first, Composes (readFlowEntries first count)

variable {count : Nat}

section Steps

variable (all : ComposesAll count)

include all

theorem composes_readNode (block indentless : Bool) :
    Composes (readNode block indentless (count + 1)) := by
  rw [readNode]
  refine composes_peek.bind fun first => ?_
  split
  · exact composes_advance.bind fun _ => composes_named _
  · refine composes_readProperties.bind fun properties => ?_
    refine (composes_fullName _).bind fun name => composes_peek.bind fun token => ?_
    refine (composes_requireFresh _).bind fun _ => ?_
    have sequence {items : Reader (List NodeId)} (composes : Composes items) :
        Composes (addCollection properties.anchor (collectionTag name .seq)
          (Content.sequence <$> items)) :=
      composes_addCollection _ _ (composes.map _)
    have mapping {entries : Reader (List (NodeId × NodeId))} (composes : Composes entries) :
        Composes (addCollection properties.anchor (collectionTag name .map)
          (Content.mapping <$> entries)) :=
      composes_addCollection _ _ (composes.map _)
    dsimp only
    split
    · exact composes_advance.bind fun _ => composes_addNode _ _
    · exact composes_advance.bind fun _ => sequence (all.flowItems true)
    · exact composes_advance.bind fun _ => mapping (all.flowEntries true)
    · refine .ite (fun _ => sequence all.indentlessItems) fun _ => ?_
      refine .ite (fun _ => composes_advance.bind fun _ => sequence all.blockItems) fun _ => ?_
      refine .ite (fun _ => composes_advance.bind fun _ => mapping all.blockEntries) fun _ => ?_
      exact .ite (fun _ => composes_addNode _ _) fun _ => .throw unreadable

theorem composes_readUnless (block indentless : Bool) (stops : List Token) :
    Composes (readUnless block indentless stops (count + 1)) := by
  rw [readUnless]
  refine (composes_isAt stops).bind fun _ => ?_
  exact .ite (fun _ => composes_addEmpty) fun _ => all.node block indentless

theorem composes_readValue (block indentless : Bool) (stops : List Token) :
    Composes (readValue block indentless stops (count + 1)) := by
  rw [readValue]
  refine (composes_isAt _).bind fun _ => .ite (fun _ => ?_) fun _ => composes_addEmpty
  exact composes_advance.bind fun _ => all.orEmpty block indentless stops

theorem composes_readBlockItems : Composes (readBlockItems (count + 1)) := by
  rw [readBlockItems]
  refine (composes_isAt _).bind fun _ => .ite (fun _ => ?_) fun _ => ?_
  · refine composes_advance.bind fun _ => (all.orEmpty _ _ _).bind fun item => ?_
    exact all.blockItems.bind fun _ => .pure _
  · exact (composes_expect _).bind fun _ => .pure _

theorem composes_readIndentlessItems : Composes (readIndentlessItems (count + 1)) := by
  rw [readIndentlessItems]
  refine (composes_isAt _).bind fun _ => .ite (fun _ => ?_) fun _ => .pure _
  refine composes_advance.bind fun _ => (all.orEmpty _ _ _).bind fun item => ?_
  exact all.indentlessItems.bind fun _ => .pure _

theorem composes_readBlockEntries : Composes (readBlockEntries (count + 1)) := by
  rw [readBlockEntries]
  refine (composes_isAt _).bind fun _ => .ite (fun _ => ?_) fun _ => ?_
  · refine composes_advance.bind fun _ => (all.orEmpty _ _ _).bind fun key => ?_
    refine (all.value _ _ _).bind fun value => ?_
    exact all.blockEntries.bind fun _ => .pure _
  · exact (composes_expect _).bind fun _ => .pure _

theorem composes_readSinglePair : Composes (readSinglePair (count + 1)) := by
  rw [readSinglePair]
  refine composes_advance.bind fun _ => (all.orEmpty _ _ _).bind fun key => ?_
  exact (all.value _ _ _).bind fun _ => .pure _

theorem composes_readFlowItems (first : Bool) : Composes (readFlowItems first (count + 1)) := by
  rw [readFlowItems]
  have others (item : NodeId) :
      Composes (do let others ← readFlowItems false count; return item :: others) :=
    (all.flowItems false).bind fun _ => .pure _
  have closing : Composes (do advance; return ([] : List NodeId)) :=
    composes_advance.bind fun _ => .pure _
  refine (composes_isAt _).bind fun _ => .ite (fun _ => closing) fun _ => ?_
  apply composes_afterComma
  refine (composes_isAt _).bind fun _ => .ite (fun _ => closing) fun _ => ?_
  refine (composes_isAt _).bind fun _ => .ite (fun _ => ?pair) fun _ => ?item
  case pair => exact (composes_addCollection _ _ (all.singlePair.map _)).bind others
  case item => exact (all.node false false).bind others

theorem composes_readFlowEntries (first : Bool) :
    Composes (readFlowEntries first (count + 1)) := by
  rw [readFlowEntries]
  have others (entry : NodeId × NodeId) :
      Composes (do let others ← readFlowEntries false count; return entry :: others) :=
    (all.flowEntries false).bind fun _ => .pure _
  have closing : Composes (do advance; return ([] : List (NodeId × NodeId))) :=
    composes_advance.bind fun _ => .pure _
  refine (composes_isAt _).bind fun _ => .ite (fun _ => closing) fun _ => ?_
  apply composes_afterComma
  refine (composes_isAt _).bind fun _ => .ite (fun _ => closing) fun _ => ?_
  refine (composes_isAt _).bind fun _ => .ite (fun _ => ?announced) fun _ => ?plain
  case announced =>
    refine composes_advance.bind fun _ => (all.orEmpty _ _ _).bind fun key => ?_
    exact (all.value _ _ _).bind fun value => others (key, value)
  case plain =>
    refine (all.node false false).bind fun key => composes_peek.bind fun _ => ?_
    exact composes_addEmpty.bind fun value => others (key, value)

end Steps

theorem composesAll (count : Nat) : ComposesAll count := by
  induction count with
  | zero =>
    constructor
    all_goals intros; exact .throw unreadable
  | succ count ih =>
    exact ⟨composes_readNode ih, composes_readUnless ih, composes_readValue ih,
      composes_readBlockItems ih, composes_readIndentlessItems ih, composes_readBlockEntries ih,
      composes_readFlowItems ih, composes_readSinglePair ih, composes_readFlowEntries ih⟩

/-! ## Documents -/

theorem composes_readDirectives (versioned : Bool) (declared : Handles) (count : Nat) :
    Composes (readDirectives versioned declared count) := by
  induction count generalizing versioned declared with
  | zero => exact .throw unreadable
  | succ count ih =>
    rw [readDirectives]
    refine composes_peek.bind fun first => ?_
    split
    · refine composes_advance.bind fun _ => ?_
      exact .ite (fun _ => .throw_bind unreadable _) fun _ => ih _ _
    · refine composes_advance.bind fun _ => ?_
      exact .ite (fun _ => .throw_bind unreadable _) fun _ => ih _ _
    · exact composes_advance.bind fun _ => ih _ _
    · exact .pure _

theorem composes_readRoot : Composes readRoot :=
  Keeps.get_bind fun _ _ => (composesAll _).node true false

theorem composes_readMarked : Composes readMarked := by
  refine Keeps.get_bind fun state _ => (composes_readDirectives _ _ _).bind fun declared => ?_
  refine (composes_expect _).bind fun _ => ?_
  refine Keeps.bind (composes_modify fun _ => rfl) fun _ => composes_peek.bind fun _ => ?_
  exact .ite (fun _ => composes_addEmpty) fun _ => composes_readRoot

theorem composes_skipClosingMarks (count : Nat) : Composes (skipClosingMarks count) := by
  induction count with
  | zero => exact .pure _
  | succ count ih =>
    rw [skipClosingMarks]
    refine (composes_isAt _).bind fun _ => .ite (fun _ => ?_) fun _ => .pure _
    exact composes_advance.bind fun _ => ih

theorem composes_requireEnd : Composes requireEnd := by
  refine Keeps.get_bind fun state _ => (composes_skipClosingMarks _).bind fun _ => ?_
  refine composes_peek.bind fun _ => .ite (fun _ => ?_) fun _ => .pure _
  refine Keeps.get_bind fun state _ => (composes_readDirectives _ _ _).bind fun _ => ?_
  exact .throw unreadable

theorem composes_readAll : Composes readAll := by
  refine composes_peek.bind fun first => ?_
  split
  · exact .pure _
  · refine .ite (fun _ => ?_) fun _ => ?_
    · exact composes_readMarked.bind fun _ => composes_requireEnd.bind fun _ => .pure _
    · exact composes_readRoot.bind fun _ => composes_requireEnd.bind fun _ => .pure _

/-- A text that is no document has the fault of a token, or collections nested too deeply. -/
theorem ofText_ends (text : String) : RefusesOnly Fault.OfDocument (ofText text) := by
  have start : (State.start (Token.ofText text.toList)).Sound := Token.isSound_ofText text.toList
  exact (composes_readAll _ start).bind fun _ _ => trivial

end Document

end FieldRules.Yaml
