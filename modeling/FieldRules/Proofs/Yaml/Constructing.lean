import FieldRules.Proofs.Faults
import FieldRules.Yaml.Object

/-!
# Faults of values

What can go wrong when the objects of a document are made.  A scalar may have no
value, although the text of the document is well formed: its tag asks for a form
that its text does not have, or for a number or a date that does not exist
(`Fault.OfScalar`).  Besides, a mapping may be tagged as a timestamp, and a chain
of default values or of merges may have no end.

Making objects changes the document, since mappings take over the entries that
they merge.  No scalar is changed in this, no mapping is made, and a tag changes
to that of a text at most (`Graph.Refines`).  So a fault is traced back to the
nodes of the document as it was read (`Graph.Faults`).
-/

set_option autoImplicit false

namespace FieldRules.Yaml

/-! ## Scalars without a value -/

/-- The faults that a scalar can have by its tag. -/
inductive Fault.OfScalar : Tag → Fault → Prop
  | unreadable {tag : Tag} : OfScalar tag .unreadable
  | notBoolean {word : String} : OfScalar .bool (.notBoolean word)
  | emptyInteger : OfScalar .int .emptyNumber
  | notInteger {base : Nat} {text : String} : OfScalar .int (.notInteger base text)
  | overlong {count : Nat} (long : digitLimit < count) :
      OfScalar .int (.digits (.tooLongToRead count))
  | emptyNumber : OfScalar .float .emptyNumber
  | notNumber {text : String} : OfScalar .float (.notNumber text)
  | overflow : OfScalar .float .overflow
  | notTimestamp : OfScalar .timestamp .notTimestamp
  | calendar {fault : CalendarFault} : OfScalar .timestamp (.calendar fault)

theorem readInteger_ends (base : Nat) (s : List Char) :
    RefusesOnly (Fault.OfScalar .int) (readInteger base s) := by
  refine Ends.ite (fun long => .error (.overlong ?_)) fun _ => ?_
  · simp only [Bool.and_eq_true, decide_eq_true_eq] at long
    exact long.2
  · exact .ite (fun _ => .error .notInteger) fun _ => trivial

theorem readInt_ends (content : List Char) :
    RefusesOnly (Fault.OfScalar .int) (readInt content) := by
  refine Ends.ite (fun _ => .error .emptyInteger) fun _ => ?_
  split
  · exact .error .emptyInteger
  · trivial
  · exact (readInteger_ends 2 _).map fun _ _ => trivial
  · exact (readInteger_ends 16 _).map fun _ _ => trivial
  · exact (readInteger_ends 8 _).map fun _ _ => trivial
  · refine .ite (fun _ => ?_) fun _ => (readInteger_ends 10 _).map fun _ _ => trivial
    exact (Ends.mapM fun part _ => readInteger_ends 10 part).map fun _ _ => trivial

theorem readNumber_ends (s : List Char) : RefusesOnly (Fault.OfScalar .float) (readNumber s) := by
  unfold readNumber
  split
  · trivial
  · exact .error .notNumber

theorem sumSixtieths_ends (parts : List Binary64) :
    RefusesOnly (Fault.OfScalar .float) (sumSixtieths parts) := by
  have weight (power : Nat) : RefusesOnly (Fault.OfScalar .float) (placeValue power) :=
    Ends.ite (fun _ => trivial) fun _ => .error .overflow
  have total (step : Binary64 × Nat → Binary64 → Except Fault (Binary64 × Nat))
      (each : ∀ state part, RefusesOnly (Fault.OfScalar .float) (step state part)) :
      RefusesOnly (Fault.OfScalar .float) (parts.foldlM step (Binary64.zero false, 1)) :=
    Ends.foldlM (fun state _ part _ => each state part) trivial
  refine (total _ fun state part => ?_).bind fun _ _ => trivial
  exact (weight state.2).bind fun _ _ => trivial

theorem readFloat_ends (content : List Char) :
    RefusesOnly (Fault.OfScalar .float) (readFloat content) := by
  refine Ends.ite (fun _ => .error .emptyNumber) fun _ => ?_
  refine .ite (fun _ => trivial) fun _ => .ite (fun _ => trivial) fun _ => ?_
  refine .ite (fun _ => ?_) fun _ => (readNumber_ends _).map fun _ _ => trivial
  refine Ends.bind (Ends.mapM fun part _ => readNumber_ends part) fun parts _ => ?_
  exact (sumSixtieths_ends _).map fun _ _ => trivial

theorem readTimestamp_ends (content : List Char) :
    RefusesOnly (Fault.OfScalar .timestamp) (readTimestamp content) := by
  unfold readTimestamp
  split
  · exact .error .notTimestamp
  · split
    · trivial
    · exact .error .calendar

theorem readBinary_ends (content : List Char) :
    RefusesOnly (Fault.OfScalar .binary) (readBinary content) := by
  refine Ends.ite (fun _ => ?_) fun _ => .error .unreadable
  split
  · trivial
  · exact .error .unreadable

/-- A scalar without a value has a fault of its tag. -/
theorem readScalar_ends (tag : Tag) (content : List Char) :
    RefusesOnly (Fault.OfScalar tag) (readScalar tag content) := by
  cases tag with
  | null => trivial
  | bool =>
    have read : RefusesOnly (Fault.OfScalar .bool) (readBool content) :=
      Ends.ite (fun _ => trivial) fun _ => .ite (fun _ => trivial) fun _ => .error .notBoolean
    exact read.map fun _ _ => trivial
  | int => exact (readInt_ends content).map fun _ _ => trivial
  | float => exact (readFloat_ends content).map fun _ _ => trivial
  | binary => exact readBinary_ends content
  | timestamp => exact readTimestamp_ends content
  | str => trivial
  | _ => exact .error .unreadable

/-! ## Changes of a document -/

namespace Graph

/-- A graph in which mappings may have other entries than in an original, and tags may have become
those of texts. -/
structure Refines (current original : Graph) : Prop where
  scalar : ∀ id text, current.contentOf id = .scalar text → original.contentOf id = .scalar text
  mapping : ∀ id, current.isMapping id = true → original.isMapping id = true
  tag : ∀ id, current.tagOf id = original.tagOf id ∨ current.tagOf id = .str

theorem Refines.refl (graph : Graph) : graph.Refines graph :=
  ⟨fun _ _ same => same, fun _ same => same, fun _ => .inl rfl⟩

variable {current original : Graph} {id : NodeId}

theorem node_setIfInBounds (graph : Graph) (id other : NodeId) (node : Node) :
    Graph.node ⟨graph.nodes.setIfInBounds id node⟩ other = node ∧ id = other ∨
      Graph.node ⟨graph.nodes.setIfInBounds id node⟩ other = graph.node other := by
  unfold Graph.node
  simp only [Array.getD_eq_getD_getElem?, Array.getElem?_setIfInBounds]
  by_cases same : id = other
  · subst same
    by_cases inside : id < graph.nodes.size
    · exact .inl ⟨by simp [inside], rfl⟩
    · exact .inr (by simp [inside])
  · exact .inr (by simp [same])

/-- A mapping may be given other entries. -/
theorem Refines.setMapping (refines : current.Refines original)
    (isMapping : original.isMapping id = true) (entries : List (NodeId × NodeId)) :
    (current.setContent id (.mapping entries)).Refines original := by
  constructor
  case scalar =>
    intro other text here
    rcases node_setIfInBounds current id other _ with ⟨changed, -⟩ | same
    · rw [contentOf, setContent, changed] at here
      exact nomatch here
    · rw [contentOf, setContent, same] at here
      exact refines.scalar other text here
  case mapping =>
    intro other here
    rcases node_setIfInBounds current id other _ with ⟨-, rfl⟩ | same
    · exact isMapping
    · rw [Graph.isMapping, contentOf, setContent, same] at here
      exact refines.mapping other here
  case tag =>
    intro other
    rcases node_setIfInBounds current id other _ with ⟨changed, rfl⟩ | same
    · rw [tagOf, setContent, changed]
      exact refines.tag id
    · rw [tagOf, setContent, same]
      exact refines.tag other

/-- A node may be given the tag of a text. -/
theorem Refines.setText (refines : current.Refines original) (id : NodeId) :
    (current.setTag id .str).Refines original := by
  have content (other : NodeId) :
      (current.setTag id .str).contentOf other = current.contentOf other := by
    rw [contentOf, setTag]
    rcases node_setIfInBounds current id other _ with ⟨changed, rfl⟩ | same
    · rw [changed, contentOf]
    · rw [same, contentOf]
  constructor
  case scalar =>
    intro other text here
    rw [content] at here
    exact refines.scalar other text here
  case mapping =>
    intro other here
    rw [Graph.isMapping, content] at here
    exact refines.mapping other here
  case tag =>
    intro other
    rw [tagOf, setTag]
    rcases node_setIfInBounds current id other _ with ⟨changed, -⟩ | same
    · rw [changed]
      exact .inr rfl
    · rw [same]
      exact refines.tag other

theorem Refines.plainKeys (refines : current.Refines original)
    (entries : List (NodeId × NodeId)) : (current.plainKeys entries).Refines original := by
  unfold Graph.plainKeys
  induction entries generalizing current with
  | nil => exact refines
  | cons entry entries ih =>
    obtain ⟨key, value⟩ := entry
    rw [List.foldl_cons]
    apply ih
    dsimp only
    split
    · exact refines.setText key
    · exact refines

theorem isMapping_of_content {graph : Graph} {entries : List (NodeId × NodeId)}
    (content : graph.contentOf id = .mapping entries) : graph.isMapping id = true := by
  rw [Graph.isMapping, content]

/-! ## Faults of nodes -/

/-- The faults that come to light when the objects of a graph are made. -/
inductive Faults (graph : Graph) : Fault → Prop
  | unreadable : Faults graph .unreadable
  | tooDeep : Faults graph .tooDeep
  | timestampOfMapping {id : NodeId} (tagged : graph.tagOf id = .timestamp)
      (isMapping : graph.isMapping id = true) : Faults graph .timestampOfMapping
  /-- The text of a scalar has no value by its tag, or by that of a mapping that stands for it. -/
  | scalar {id other : NodeId} {content : List Char} {fault : Fault}
      (held : graph.contentOf other = .scalar content)
      (standsFor : id = other ∨ graph.isMapping id = true)
      (failed : readScalar (graph.tagOf id) content = .error fault)
      (ofTag : Fault.OfScalar (graph.tagOf id) fault) : Faults graph fault

/-- A mapping takes over entries, or a merge in it cannot be read. -/
theorem Refines.absorb (count : Nat) (id : NodeId) (taken : List (NodeId × NodeId))
    (refines : current.Refines original) (isMapping : original.isMapping id = true) :
    Ends original.Faults (fun merged => merged.Refines original)
      (absorb count id taken current) := by
  induction count generalizing id taken current with
  | zero => exact .error .tooDeep
  | succ count ih =>
    rw [Graph.absorb]
    split
    · exact (refines.setMapping isMapping _).plainKeys _
    · next before source behind _ =>
      have reduced := refines.setMapping isMapping (before ++ behind)
      dsimp only
      split
      · next entries content =>
        have inner := reduced.mapping source (isMapping_of_content content)
        exact (ih source [] reduced inner).bind fun merged still => ih id _ still isMapping
      · next items _ =>
        have all : Ends original.Faults
            (fun state : Graph × List (NodeId × NodeId) => state.1.Refines original)
            (items.foldlM (fun state item =>
              if state.1.isMapping item = true then do
                let merged ← Graph.absorb count item [] state.1
                pure (merged, merged.entriesOf item ++ state.2)
              else throw Fault.unreadable)
              (current.setContent id (.mapping (before ++ behind)), [])) := by
          refine Ends.foldlM (fun state still item _ => ?_) reduced
          refine .ite (fun inner => ?_) fun _ => .error .unreadable
          exact (ih item [] still (still.mapping item inner)).bind fun _ merged => merged
        exact all.bind fun state still => ih id _ still isMapping
      · exact .error .unreadable

theorem Refines.scalarText (refines : current.Refines original) (count : Nat) (id : NodeId) :
    Ends original.Faults (fun text => ∃ other, original.contentOf other = .scalar text ∧
      (id = other ∨ original.isMapping id = true)) (current.scalarText count id) := by
  induction count generalizing id with
  | zero => exact .error .tooDeep
  | succ count ih =>
    unfold Graph.scalarText
    split
    · next text content => exact ⟨id, refines.scalar id text content, .inl rfl⟩
    · exact .error .unreadable
    · next entries content =>
      have isMapping := refines.mapping id (isMapping_of_content content)
      split
      · next value _ =>
        refine (ih value).mono (fun _ isKnown => isKnown) ?_
        rintro text ⟨other, held, -⟩
        exact ⟨other, held, .inr isMapping⟩
      · exact .error .unreadable

/-- A scalar has a fault by the tag that it has in the original. -/
theorem Refines.readScalar (refines : current.Refines original) {other : NodeId}
    {content : List Char} (held : original.contentOf other = .scalar content)
    (standsFor : id = other ∨ original.isMapping id = true) :
    RefusesOnly original.Faults (readScalar (current.tagOf id) content) := by
  rcases refines.tag id with same | text
  · rw [same]
    cases read : Yaml.readScalar (original.tagOf id) content with
    | ok value => trivial
    | error fault =>
      have ofTag := (readScalar_ends _ content).known_of_error read
      exact .error (.scalar held standsFor read ofTag)
  · rw [text]
    trivial

theorem Refines.scalarObject (refines : current.Refines original) (id : NodeId) :
    RefusesOnly original.Faults (current.scalarObject id) := by
  refine (refines.scalarText _ id).bind ?_
  rintro text ⟨other, held, standsFor⟩
  have read := refines.readScalar held standsFor
  split
  · next tagged =>
    rw [tagged] at read
    exact .ite (fun _ => trivial) fun _ => read.bind fun _ _ => trivial
  · next tagged =>
    refine .ite (fun isMapping => ?_) fun _ => ?_
    · rcases refines.tag id with same | changed
      · exact .error (.timestampOfMapping (same.symm.trans tagged) (refines.mapping id isMapping))
      · exact absurd (tagged.symm.trans changed) (by simp)
    · rw [tagged] at read
      exact read.bind fun _ _ => trivial
  · exact read.bind fun _ _ => trivial

end Graph

/-! ## Building objects -/

namespace Builder

variable {original : Graph}

/-- A part of building that changes the nodes as allowed, and has a fault of them at most. -/
abbrev Builds {α : Type} (original : Graph) (part : Build α) : Prop :=
  Keeps (fun builder => builder.graph.Refines original) original.Faults part

/-- A change that leaves the nodes alone. -/
theorem builds_modify {change : Builder → Builder}
    (same : ∀ builder, (change builder).graph = builder.graph) :
    Builds original (modify change) := by
  apply Keeps.modify
  intro builder refines
  rw [same]
  exact refines

theorem builds_keep (id : NodeId) (object : Object) : Builds original (keep id object) :=
  builds_modify fun _ => rfl

theorem builds_await (id : NodeId) (container : Object) : Builds original (await id container) :=
  (builds_keep id container).bind fun _ => builds_modify fun _ => rfl

theorem builds_touch (id : NodeId) : Builds original (touch id) := by
  refine Keeps.get_bind fun builder refines => .ite (fun _ => .pure _) fun _ => ?_
  split
  · exact builds_await id _
  · exact builds_await id _
  · exact builds_await id _
  · exact builds_await id _
  · exact builds_await id _
  · exact .throw .unreadable
  · exact .throw .unreadable
  · exact .throw .unreadable
  · exact Keeps.lift_bind (refines.scalarObject id) fun object _ => builds_keep id object

theorem builds_addEntry (entries : List (NodeId × NodeId)) (entry : NodeId × NodeId) :
    Builds original (addEntry entries entry) := by
  refine (builds_touch entry.1).bind fun _ => Keeps.get_bind fun builder _ => ?_
  refine .ite (fun _ => .throw_bind .unreadable _) fun _ => ?_
  exact (builds_touch entry.2).bind fun _ => Keeps.get_bind fun _ _ => .pure _

theorem builds_readEntries (id : NodeId) : Builds original (readEntries id) := by
  refine Keeps.get_bind fun builder refines => ?_
  refine .ite (fun _ => .throw_bind .unreadable _) fun isMapping => ?_
  have inner : original.isMapping id = true := refines.mapping id (by simpa using isMapping)
  refine Keeps.lift_bind (refines.absorb _ id [] inner) fun merged refinesToo => ?_
  refine Keeps.bind (Keeps.modify fun _ _ => refinesToo) fun _ => ?_
  exact Keeps.foldlM (fun entries entry _ => builds_addEntry entries entry) []

theorem builds_readItems (id : NodeId) : Builds original (readItems id) := by
  refine Keeps.get_bind fun builder _ => ?_
  split
  · exact .pure _
  · exact .throw .unreadable

theorem builds_readPair (id : NodeId) : Builds original (readPair id) := by
  refine Keeps.get_bind fun builder _ => ?_
  split
  · exact (builds_touch _).bind fun _ => (builds_touch _).bind fun _ => .pure _
  · exact .throw .unreadable

theorem builds_fill (id : NodeId) : Builds original (fill id) := by
  have pairs : Builds original (do
      let items ← readItems id
      keep id (.pairs (← items.mapM readPair))) := by
    refine (builds_readItems id).bind fun items => ?_
    exact (Keeps.mapM fun item _ => builds_readPair item).bind fun _ => builds_keep id _
  refine Keeps.get_bind fun builder _ => ?_
  split
  · refine (builds_readItems id).bind fun items => ?_
    exact (Keeps.forM fun item _ => builds_touch item).bind fun _ => builds_keep id _
  · exact pairs
  · exact pairs
  · exact (builds_readEntries id).bind fun _ => builds_keep id _
  · exact (builds_readEntries id).bind fun _ => builds_keep id _

theorem builds_fillAll (count : Nat) : Builds original (fillAll count) := by
  induction count with
  | zero => exact .pure _
  | succ count ih =>
    rw [fillAll]
    refine Keeps.get_bind fun builder _ => .ite (fun _ => .pure _) fun _ => ?_
    refine Keeps.bind (builds_modify fun _ => rfl) fun _ => ?_
    exact (Keeps.forM fun id _ => builds_fill id).bind fun _ => ih

theorem builds_build (root : NodeId) : Builds original (build root) :=
  (builds_touch root).bind fun _ => Keeps.get_bind fun _ _ => builds_fillAll _

end Builder

/-- Objects that cannot be made have a fault of the nodes. -/
theorem Objects.ofGraph_ends (graph : Graph) (root : NodeId) :
    RefusesOnly graph.Faults (Objects.ofGraph graph root) :=
  (Builder.builds_build root _ (.refl graph)).bind fun _ _ => trivial

end FieldRules.Yaml
