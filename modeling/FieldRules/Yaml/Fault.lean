import FieldRules.Calendar
import FieldRules.Number.Integer
import FieldRules.Text.Quoted

/-!
# Faults of YAML texts

A text may be no YAML document at all, which covers every fault of its form and
every value that no tag explains.  Apart from that, a scalar whose form was
accepted may still denote nothing: a date that does not exist, a number with too
many digits, or an explicit tag on a text that does not fit it.  And collections
may be nested too deeply, which includes a mapping that stands for its default
value without end.
-/

set_option autoImplicit false

namespace FieldRules.Yaml

/-- Why a YAML text has no value. -/
inductive Fault where
  | unreadable
  | calendar (fault : CalendarFault)
  | digits (fault : DigitFault)
  | notInteger (base : Nat) (text : String)
  | notNumber (text : String)
  | codePoint
  | codePointOverflow
  | notBoolean (word : String)
  | emptyNumber
  | notTimestamp
  | timestampOfMapping
  | overflow
  | tooDeep
  deriving DecidableEq, Repr

/-- How much of a quoted text is shown where an integer was expected. -/
def shownLength : Nat := 200

/-- The name of the class of a fault. -/
def Fault.className : Fault → String
  | .unreadable => "YAMLError"
  | .notBoolean _ => "KeyError"
  | .emptyNumber => "IndexError"
  | .notTimestamp => "AttributeError"
  | .codePointOverflow | .overflow => "OverflowError"
  | .timestampOfMapping => "TypeError"
  | .tooDeep => "RecursionError"
  | .calendar _ | .digits _ | .notInteger _ _ | .notNumber _ | .codePoint => "ValueError"

/-- The wording of a fault. -/
def Fault.message : Fault → String
  | .unreadable => "the text is no YAML document"
  | .calendar fault => fault.message
  | .digits fault => fault.message
  | .notInteger base text =>
    "invalid literal for int() with base " ++ toString base ++ ": "
      ++ String.ofList ((Text.quote text.toList).take shownLength)
  | .notNumber text => "could not convert string to float: " ++ Text.quoted text
  | .codePoint => "chr() arg not in range(0x110000)"
  | .codePointOverflow => "Python int too large to convert to C int"
  | .notBoolean word => Text.quoted word
  | .emptyNumber => "string index out of range"
  | .notTimestamp => "'NoneType' object has no attribute 'groupdict'"
  | .timestampOfMapping => "expected string or bytes-like object, got 'list'"
  | .overflow => "int too large to convert to float"
  | .tooDeep => "maximum recursion depth exceeded"

end FieldRules.Yaml
