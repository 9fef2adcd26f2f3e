import FieldRules.Schema.Loading
import FieldRules.Yaml.View

/-!
# Reading schema documents from YAML texts

A schema reads only some parts of a document, and only these are made into values:
extensions, and from each declaration the type, the format and the title.  The
value that is made up of these parts is what the text is read as.
-/

set_option autoImplicit false

namespace FieldRules.Yaml

/-- The entries of a declaration that a schema reads. -/
def isDeclarationEntry (key : Value) : Bool :=
  ["type", "format", "title"].any fun name => Value.same key (.text name)

/-- A declaration with nothing but what a schema reads of it. -/
def declarationIn (view : View) (id : NodeId) : Value :=
  match view.entries? id with
  | some entries => .map ((entries.filter fun entry => isDeclarationEntry entry.1).map
      fun (key, value) => (key, view.see value))
  | none => view.lookInto id

/-- The declarations with nothing but what a schema reads of them. -/
def declarationsIn (view : View) (id : NodeId) : Value :=
  match view.entries? id with
  | some entries => .map (entries.map fun (key, value) => (key, declarationIn view value))
  | none => view.lookInto id

/-- The value of an entry of the document, if a schema reads it. -/
def entryIn? (view : View) (entry : Value × NodeId) : Option (Value × Value) :=
  match entry.1 with
  | .text name =>
    if name == "properties" then some (entry.1, declarationsIn view entry.2)
    else if Schema.isExtensionName name then some (entry.1, view.lookInto entry.2)
    else none
  | _ => none

/-- The document with nothing but what a schema reads of it. -/
def documentIn (view : View) : Value :=
  match view.entries? view.root with
  | some entries => .map (entries.filterMap (entryIn? view))
  | none => view.lookInto view.root

/-- A text without a value as a fault of reading. -/
def Fault.ofText : Fault → ReadingFault
  | .unreadable => .unreadable (Fault.message .unreadable)
  | fault => .passedOn fault.className fault.message

/-- The document in a text, with nothing but what a schema reads of it. -/
def readDocument : Reader := fun text =>
  ((View.ofText text).map fun view? => (view?.map documentIn).getD .null).mapError Fault.ofText

end FieldRules.Yaml
