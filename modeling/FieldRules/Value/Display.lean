import FieldRules.Text.Quoted
import FieldRules.Value.Basic

/-!
# Written forms of values

A value has two written forms.  Its quoted form shows the kind of every part:
texts and bytes stand between quotes and dates under their type.  Its plain form
is for reading: a text is its own content and a date is spelled out.  The two
differ only at the top, since a container quotes what it holds.  Three dots stand
for what a hidden container holds.

A value has no written form if it holds a number with more digits than a
conversion takes, or if it is nested too deeply.  Writing goes through the parts in
order, so the first of these faults is the one that is met
(`Value.displayFault?`).
-/

set_option autoImplicit false

namespace FieldRules

/-- Why a value has no written form. -/
inductive DisplayFault where
  | tooLong
  | tooDeep
  deriving DecidableEq, Repr

/-- The wording for a value without a written form. -/
def DisplayFault.message : DisplayFault → String
  | .tooLong => DigitFault.message .tooLongToWrite
  | .tooDeep => "maximum recursion depth exceeded while getting the repr of an object"

namespace Value

/-! ## Forms -/

/-- Parts separated by commas between two delimiters. -/
def enclosed (left : String) (parts : List String) (right : String) : String :=
  left ++ ", ".intercalate parts ++ right

/-- The written form of a boolean. -/
def boolText (truth : Bool) : String := if truth then "True" else "False"

mutual
/-- The quoted form of a value. -/
def quoted : Value → String
  | .null => "None"
  | .bool truth => boolText truth
  | .int number => integerText number
  | .float number => number.text
  | .text content => Text.quoted content
  | .bytes content => Text.quotedBytes content
  | .list items => enclosed "[" (quotedItems items) "]"
  | .tuple [item] => "(" ++ quoted item ++ ",)"
  | .tuple items => enclosed "(" (quotedItems items) ")"
  | .set [] => "set()"
  | .set items => enclosed "\x7b" (quotedItems items) "\x7d"
  | .map entries => enclosed "\x7b" (quotedEntries entries) "\x7d"
  | .date day => day.quoted
  | .dateTime time => time.quoted
  | .hiddenList => "[...]"
  | .hiddenMap => "\x7b...\x7d"

/-- The quoted forms of items. -/
def quotedItems : List Value → List String
  | [] => []
  | item :: items => quoted item :: quotedItems items

/-- The quoted forms of entries, key and value with a colon between them. -/
def quotedEntries : List (Value × Value) → List String
  | [] => []
  | (key, value) :: entries => (quoted key ++ ": " ++ quoted value) :: quotedEntries entries
end

/-- The plain form of a value. -/
def display : Value → String
  | .text content => content
  | .date day => day.text
  | .dateTime time => time.text
  | value => value.quoted

/-! ## Faults of writing -/

/-- How many calls can be nested into each other when a value is read or written.  The machine stops
at a thousand, and some are under way before: how many depends on the caller, and this many are
taken to be left.  The laws about faults hold for any number. -/
def callRoom : Nat := 976

mutual
/-- The first fault that is met when a value is written with room for so many nested calls.  One is
taken by the value, and the rest are left for its parts. -/
def faultWithin? (room : Nat) (value : Value) : Option DisplayFault :=
  match room with
  | 0 => some .tooDeep
  | room + 1 =>
    match value with
    | .int number => if withinDigitLimit number then none else some .tooLong
    | .list items | .tuple items | .set items => itemFaultWithin? room items
    | .map entries => entryFaultWithin? room entries
    | _ => none

/-- The first fault that is met when items are written. -/
def itemFaultWithin? (room : Nat) : List Value → Option DisplayFault
  | [] => none
  | item :: items => (faultWithin? room item).or (itemFaultWithin? room items)

/-- The first fault that is met when entries are written, each key before its value. -/
def entryFaultWithin? (room : Nat) : List (Value × Value) → Option DisplayFault
  | [] => none
  | (key, value) :: entries =>
    (faultWithin? room key).or ((faultWithin? room value).or (entryFaultWithin? room entries))
end

/-- The first fault that is met when a value is written. -/
def displayFault? (value : Value) : Option DisplayFault := faultWithin? callRoom value

/-- Whether a value can be written. -/
def isWritable (value : Value) : Bool := value.displayFault?.isNone

/-- Null can always be written. -/
@[simp] theorem displayFault?_null : displayFault? .null = none := rfl

/-- A text can always be written. -/
@[simp] theorem displayFault?_text (content : String) : displayFault? (.text content) = none := rfl

/-! ## Hidden containers -/

mutual
/-- Whether a value is shown whole, with no hidden container in it. -/
def isWhole : Value → Bool
  | .list items | .tuple items | .set items => allWhole items
  | .map entries => entriesWhole entries
  | .hiddenList | .hiddenMap => false
  | _ => true

/-- Whether all items are shown whole. -/
def allWhole : List Value → Bool
  | [] => true
  | item :: items => isWhole item && allWhole items

/-- Whether all entries are shown whole. -/
def entriesWhole : List (Value × Value) → Bool
  | [] => true
  | (key, value) :: entries => isWhole key && isWhole value && entriesWhole entries
end

end Value

end FieldRules
