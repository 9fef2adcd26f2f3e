import FieldRules.Notice
import FieldRules.Rule.Entries
import FieldRules.Rule.Reading
import FieldRules.Settings

/-!
# The requirements and choices of a schema

Inspecting a schema reads every listed rule and reports all outcomes in the
order of the list.  Extracting keeps the dependencies of one kind and notes the
rules of that kind that failed.

A text belongs to the kind that its keyword announces, so a malformed text is
reported with its kind, and a text of another kind is passed over without a
notice.
-/

set_option autoImplicit false

namespace FieldRules

/-! ## Inspection -/

/-- The outcome of reading a listed rule, whatever its kind.  Groups have a place of their own and
are refused here. -/
def Dependency.read (schema : Schema) (text : String) : Except DigitFault (Outcome Dependency) :=
  let expression := Expression.ofText text
  match expression with
  | .requires _ _ => (expression.toRequires schema text).map (·.map .requires)
  | .keys .onlyOne _ => .ok ((expression.toOnlyOne schema text).map .onlyOne)
  | .keys .group _ => .ok ⟨text, .group, .error .misplacedGroup⟩
  | unread => .ok ⟨text, unread.kind, .error (unread.refusal unread.kind)⟩

namespace Schema

/-- The listed texts that announce a kind. -/
def textsOfKind (schema : Schema) (kind : Kind) : List String :=
  schema.dependencyTexts.filter fun text => (Expression.ofText text).kind == kind

/-- The listed texts that announce a kind, or all of them if none is asked for. -/
def textsOf (schema : Schema) (kind : Option Kind) : List String :=
  match kind with
  | none => schema.dependencyTexts
  | some wanted => schema.textsOfKind wanted

/-- The outcomes of reading the listed rules of a kind, or all of them. -/
def inspectDependencies (schema : Schema) (kind : Option Kind) :
    Except DigitFault (List (Outcome Dependency)) :=
  (schema.textsOf kind).mapM (Dependency.read schema)

/-- The outcomes of reading the listed requirements. -/
def inspectRequires (schema : Schema) : Except DigitFault (List (Outcome Requires)) :=
  (schema.textsOfKind .requires).mapM (Requires.read schema)

/-- The outcomes of reading the listed choices. -/
def inspectOnlyOne (schema : Schema) : List (Outcome OnlyOne) :=
  (schema.textsOfKind .onlyOne).map (OnlyOne.read schema)

/-! ## Extraction -/

/-- The requirements of a schema. -/
def extractRequires (schema : Schema) (settings : Settings) :
    Except DigitFault (Noted (List Requires)) :=
  schema.inspectRequires.map fun outcomes =>
    ⟨Notice.ofOutcomes settings.noteDropped .dependencies outcomes, Outcome.successes outcomes⟩

/-- The choices of a schema. -/
def extractOnlyOne (schema : Schema) (settings : Settings) : Noted (List OnlyOne) :=
  let outcomes := schema.inspectOnlyOne
  ⟨Notice.ofOutcomes settings.noteDropped .dependencies outcomes, Outcome.successes outcomes⟩

/-! ## Filtering by type -/

/-- Whether a key is declared with a type. -/
def hasType (schema : Schema) (type : DataType) (key : String) : Bool :=
  (schema.property? key).any fun property => property.type == some type

/-- The lists of keys all of whose members have a type.  One member of another type, without a
type or undeclared keeps the whole list out. -/
def filterByType {γ : Type} [Keyed γ] (schema : Schema) (type : DataType) (groups : List γ) :
    List γ :=
  groups.filter fun group => (Keyed.keys group).all (schema.hasType type)

/-- The choices of a schema among properties of one type. -/
def extractOnlyOneByType (schema : Schema) (settings : Settings) (type : DataType) :
    Noted (List OnlyOne) :=
  let choices := schema.extractOnlyOne settings
  ⟨choices.notices, schema.filterByType type choices.value⟩

end Schema

end FieldRules
