import FieldRules.Number.Shortest
import FieldRules.Schema.Basic
import FieldRules.Text.Blank
import FieldRules.Text.LowerCase

/-!
# Literals of a requirement

A literal is typed by the declared type of the property that it constrains: a
boolean property takes the words true and false in any case, a string property
any text that is not blank, with one layer of matching quotes taken off, and a
number property an integer or a decimal fraction.  A text that does not fit the
type constrains nothing, and nor does any text on a property of another type.

Reading a literal fails in one case only, an integer whose digits exceed the
limit of a conversion.
-/

set_option autoImplicit false

namespace FieldRules

/-- A typed literal. -/
inductive Literal where
  | bool (truth : Bool)
  | int (number : Int)
  | float (number : Binary64)
  | text (content : String)
  deriving DecidableEq

namespace Literal

/-- The literal as a document value. -/
def toValue : Literal → Value
  | .bool truth => .bool truth
  | .int number => .int number
  | .float number => .float number
  | .text content => .text content

/-- A constraint as a document value, null for none. -/
def valueOf : Option Literal → Value
  | none => .null
  | some literal => literal.toValue

/-! ## Reading -/

/-- Read a boolean. -/
def readBool (s : List Char) : Option Literal :=
  let word := Text.lower (Text.trim s)
  if word == ['t', 'r', 'u', 'e'] then some (.bool true)
  else if word == ['f', 'a', 'l', 's', 'e'] then some (.bool false)
  else none

/-- The quotes that may enclose a string. -/
def isQuote (c : Char) : Bool := c == '\x27' || c == '\x22'

/-- A text without one layer of matching quotes, if it has one. -/
def unquote (s : List Char) : List Char :=
  match s with
  | first :: rest =>
    if isQuote first && rest.getLast? == some first then rest.dropLast else first :: rest
  | [] => []

/-- Read a string. -/
def readText (s : List Char) : Option Literal :=
  let content := unquote (Text.trim s)
  if Text.allBlank content then none else some (.text (String.ofList content))

/-- Read a number: an integer if the text has the form of one, else a decimal fraction. -/
def readNumber (s : List Char) : Except DigitFault (Option Literal) :=
  let body := Text.trim s
  match IntegerText.read? body with
  | some written => written.convert.map fun number => some (.int number)
  | none => .ok ((Binary64.ofText? body).map .float)

/-- Type the text of a literal by a declared type. -/
def readChars (type : Option DataType) (s : List Char) : Except DigitFault (Option Literal) :=
  match type with
  | some .boolean => .ok (readBool s)
  | some .string => .ok (readText s)
  | some .integer | some .number => readNumber s
  | some .object | some .array | none => .ok none

/-- Type a literal by the declared type of its property; an absent literal constrains nothing. -/
def read (type : Option DataType) (literal : Option String) :
    Except DigitFault (Option Literal) :=
  match literal with
  | none => .ok none
  | some content => readChars type content.toList

end Literal

end FieldRules
