import FieldRules.Schema.Document

/-!
# Schemas in YAML texts

A schema may be given as the text of a YAML document.  A reader of YAML makes a
value of the text, and the value is then read as any other document.  Which reader
it is does not matter here.

A text of which the reader makes nothing is refused.  If it is no YAML, it is
refused as a schema, with the detail that the reader gives.  Every other fault of a
reader is passed on as it is.
-/

set_option autoImplicit false

namespace FieldRules

/-- Why a reader of YAML makes nothing of a text: the text is no YAML, or something went wrong while
values were made. -/
inductive ReadingFault where
  | unreadable (detail : String)
  | passedOn (className message : String)
  deriving DecidableEq, Repr

/-- A reader of YAML texts.  A text without a document stands for null. -/
abbrev Reader := String → Except ReadingFault Value

/-- A text of which a reader makes nothing as a refusal. -/
def Refusal.ofReading : ReadingFault → Refusal
  | .unreadable detail => .schema (.unreadable detail)
  | .passedOn className message => .passedOn className message

namespace Schema

/-- The schema that a YAML text describes. -/
def ofText (read : Reader) (text : String) : Attempt Schema := do
  let document ← Attempt.ofExcept Refusal.ofReading (read text)
  ofDocument document

/-- The schema that a value describes which has to be a YAML text. -/
def load (read : Reader) (text : Value) : Attempt Schema :=
  match text with
  | .text content => ofText read content
  | other => Attempt.refuse (.schema (.notText other.kindName))

end Schema

end FieldRules
