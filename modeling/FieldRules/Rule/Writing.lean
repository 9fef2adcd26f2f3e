import FieldRules.Rule.Dependency
import FieldRules.Rule.Expression
import FieldRules.Value.Display

/-!
# Writing rules

The canonical text of a dependency.  The parts of a dependency may come from a
caller who fills them with any document values, so writing starts from a draft,
a dependency with unchecked parts, and refuses the parts that no rule can hold.

Two refusals protect the reader of the text.  A key must not hold a character
that ends a key.  A string literal of the prerequisite must not hold the word
between the sides followed by a key and the sign `==`, since the literal would
be read as ending before that word.
-/

set_option autoImplicit false

namespace FieldRules

/-! ## Drafts -/

/-- A dependency whose parts are any values, or a value that is no dependency at all. -/
inductive Draft where
  | requires (prerequisiteKey dependantKey prerequisiteValue dependantValue : Value)
  | onlyOne (keys : List Value)
  | group (name : Value) (keys : List Value)
  | other (value : Value)

/-- A dependency as a draft of itself. -/
def Dependency.toDraft : Dependency → Draft
  | .requires rule =>
    .requires (.text rule.prerequisiteKey) (.text rule.dependantKey)
      (Literal.valueOf rule.prerequisiteValue) (Literal.valueOf rule.dependantValue)
  | .onlyOne rule => .onlyOne (rule.keys.map .text)
  | .group rule => .group (.text rule.name) (rule.keys.map .text)

/-! ## Refusals -/

/-- Why a draft has no text. -/
inductive WritingFault where
  | selfReference (key : Value)
  | embeddedConsequent (literal : String)
  | notKey (key : Value)
  | delimiterInKey (key : String)
  | blankText
  | notFinite (number : Binary64)
  | unsupportedLiteral (kindName : String)
  | tooFewKeys (kind : ListKind) (count : Nat)
  | notDependency (kindName : String)
  | unwritable (fault : DisplayFault)

/-- The wording of a refusal. -/
def WritingFault.message : WritingFault → String
  | .selfReference key => "property " ++ key.quoted ++ " cannot require itself"
  | .embeddedConsequent literal =>
    "prerequisite value " ++ Text.quoted literal ++ " contains 'THEN <key>=='"
  | .notKey key => "property key must be a non-empty string, got " ++ key.quoted
  | .delimiterInKey key =>
    "property key " ++ Text.quoted key ++ " contains IDL delimiter characters"
  | .blankText => "blank string literal reads back as unconstrained, pass None instead"
  | .notFinite number => "literal " ++ number.text ++ " has no IDL form"
  | .unsupportedLiteral kindName => "unsupported literal type " ++ kindName
  | .tooFewKeys kind count =>
    kind.keyword ++ " needs at least " ++ toString kind.minimum ++ " keys, got "
      ++ toString count
  | .notDependency kindName => "cannot compose " ++ kindName
  | .unwritable fault => fault.message

/-- A refusal that shows a value, or the refusal to show it if it cannot be written. -/
def WritingFault.about (value : Value) (fault : WritingFault) : WritingFault :=
  (value.displayFault?.map .unwritable).getD fault

namespace Draft

/-! ## Parts -/

/-- The characters that end a key in some rule. -/
def isDelimiter (c : Char) : Bool :=
  Text.isBlank c || c == '=' || c == ';' || c == ',' || c == '(' || c == ')'

/-- The text of a key. -/
def keyChars (key : Value) : Except WritingFault (List Char) :=
  match key with
  | .text content =>
    if content == "" then .error (.notKey key)
    else if content.toList.any isDelimiter then .error (.delimiterInKey content)
    else .ok content.toList
  | unfit => .error (WritingFault.about unfit (.notKey unfit))

/-- The text of a literal with the sign before it; an absent literal has the empty text. -/
def literalChars (literal : Value) : Except WritingFault (List Char) :=
  match literal with
  | .null => .ok []
  | .bool truth =>
    .ok (Expression.equalsSign
      ++ if truth then ['t', 'r', 'u', 'e'] else ['f', 'a', 'l', 's', 'e'])
  | .text content =>
    if Text.allBlank content.toList then .error .blankText
    else .ok (Expression.equalsSign ++ '\x27' :: content.toList ++ ['\x27'])
  | .float number =>
    if number.isFinite then .ok (Expression.equalsSign ++ number.chars)
    else .error (.notFinite number)
  | .int number =>
    if withinDigitLimit number then .ok (Expression.equalsSign ++ integerChars number)
    else .error (.unwritable .tooLong)
  | unfit => .error (.unsupportedLiteral unfit.kindName)

/-- Whether a text starts with a blank, the word between the sides, blanks, a key and the sign
`==`. -/
def startsConsequent : List Char → Bool
  | [] => false
  | c :: s =>
    Text.isBlank c &&
      ((do
        let behindWord ← Expression.after? Expression.thenWord s
        let opening ← Expression.afterBlanks? behindWord
        let (_, rest) ← Expression.key? opening
        Expression.after? Expression.equalsSign rest).isSome)

/-- Whether some part of a text starts like a consequent with a literal. -/
def embedsConsequent : List Char → Bool
  | [] => false
  | c :: s => startsConsequent (c :: s) || embedsConsequent s

/-! ## Whole rules -/

/-- The text of a requirement.  The checks run in the order of the definition, so a draft with
several faults is refused for the first of them. -/
def requiresChars (prerequisiteKey dependantKey prerequisiteValue dependantValue : Value) :
    Except WritingFault (List Char) := do
  if Value.same prerequisiteKey dependantKey then
    throw (WritingFault.about prerequisiteKey (.selfReference prerequisiteKey))
  if let .text literal := prerequisiteValue then
    if embedsConsequent literal.toList then throw (.embeddedConsequent literal)
  let key ← keyChars prerequisiteKey
  let literal ← literalChars prerequisiteValue
  let dependant ← keyChars dependantKey
  let dependantLiteral ← literalChars dependantValue
  return Expression.ifWord ++ ' ' :: key ++ literal ++ ' ' :: Expression.thenWord
    ++ ' ' :: dependant ++ dependantLiteral ++ [';']

/-- The text of a list of keys. -/
def keysChars (kind : ListKind) (keys : List Value) : Except WritingFault (List Char) := do
  if keys.length < kind.minimum then throw (.tooFewKeys kind keys.length)
  let parts ← keys.mapM keyChars
  return Expression.listWord kind ++ '(' :: List.intercalate [',', ' '] parts ++ [')', ';']

/-- The canonical text of a draft. -/
def write (draft : Draft) : Except WritingFault String :=
  let chars := match draft with
    | .requires prerequisiteKey dependantKey prerequisiteValue dependantValue =>
      requiresChars prerequisiteKey dependantKey prerequisiteValue dependantValue
    | .onlyOne keys => keysChars .onlyOne keys
    | .group _ keys => keysChars .group keys
    | .other value => .error (.notDependency value.kindName)
  chars.map String.ofList

end Draft

/-- The canonical text of a dependency. -/
def Dependency.write (dependency : Dependency) : Except WritingFault String :=
  dependency.toDraft.write

end FieldRules
