import FieldRules.Proofs.Yaml.Composing
import FieldRules.Proofs.Yaml.Constructing
import FieldRules.Yaml.Reading

/-!
# Faults of the reader of schema documents

The reader makes a document of the tokens of a text, and values of the nodes of the
document.  A text of which it makes nothing has a fault of one of the two stages
(`Yaml.readDocument_ends`): what each stage can meet is settled by its own parts,
the tokens and the grammar (`Document.ofText_ends`) and the nodes
(`Objects.ofGraph_ends`).
-/

set_option autoImplicit false

namespace FieldRules.Yaml

/-- Why the reader makes nothing of a text. -/
inductive Unread (text : String) : ReadingFault → Prop
  /-- The text does not make up a document. -/
  | document {fault : Fault} (read : Document.ofText text = .error fault)
      (ofDocument : fault.OfDocument) : Unread text fault.ofText
  /-- The nodes of the document do not make up values. -/
  | value {document : Document} {fault : Fault} (read : Document.ofText text = .ok document)
      (ofNodes : document.graph.Faults fault) : Unread text fault.ofText

theorem View.ofGraph_ends {text : String} {document : Document}
    (read : Document.ofText text = .ok document) (root : NodeId) :
    RefusesOnly (fun fault => Unread text fault.ofText) (View.ofGraph document.graph root) := by
  have objects := (Objects.ofGraph_ends document.graph root).mono
    (fun fault ofNodes => Unread.value read ofNodes) fun _ _ => trivial
  exact objects.bind fun _ _ => trivial

theorem View.ofText_ends (text : String) :
    RefusesOnly (fun fault => Unread text fault.ofText) (View.ofText text) := by
  cases read : Document.ofText text with
  | error fault =>
    have ofDocument := (Document.ofText_ends text).known_of_error read
    rw [View.ofText, read]
    exact .error (.document read ofDocument)
  | ok document =>
    rw [View.ofText, read]
    refine Ends.bind (Ends.ok (Eq.refl document)) ?_
    rintro _ rfl
    split
    · exact (View.ofGraph_ends read _).bind fun _ _ => trivial
    · trivial

/-- **A text of which the reader makes nothing is no document, or its nodes make up no values.** -/
theorem readDocument_ends (text : String) : RefusesOnly (Unread text) (readDocument text) := by
  have viewed := View.ofText_ends text
  rw [readDocument]
  cases read : View.ofText text with
  | error fault =>
    rw [read] at viewed
    exact viewed
  | ok view? => trivial

example : (match readDocument "properties: \x7bstart: \x7bdefault: 2025-13-45\x7d\x7d\n" with
    | .error fault => some fault
    | .ok _ => none) = some (.passedOn "ValueError" "month must be in 1..12") := by
  decide +kernel

end FieldRules.Yaml
