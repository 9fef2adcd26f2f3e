import FieldRules.Calendar
import FieldRules.Number.Shortest

/-!
# Document values

A document is made of values: null, booleans, integers, floating-point numbers,
texts, bytes, dates, and containers of values.  A mapping keeps its entries in
the order in which their keys first appeared.

A document can put a container inside itself.  Values are finite trees, so a list
or mapping may be hidden: it is then a mark, which says no more than that a list
or mapping with something in it stands here.

Equality of values is the equality that decides whether two keys of a mapping
collide.  It compares numbers by what they denote, so the integer one, the
floating-point number one and the boolean true are the same key, while texts
equal texts only.  Mappings are equal when they hold the same entries in any
order.  The equality is not reflexive: not-a-number differs from itself.
-/

set_option autoImplicit false

namespace FieldRules

/-- A value of a document. -/
inductive Value where
  | null
  | bool (truth : Bool)
  | int (number : Int)
  | float (number : Binary64)
  | text (content : String)
  | bytes (content : List UInt8)
  | list (items : List Value)
  | tuple (items : List Value)
  | set (items : List Value)
  | map (entries : List (Value × Value))
  | date (day : Date)
  | dateTime (time : DateTime)
  | hiddenList
  | hiddenMap
  deriving Inhabited

namespace Value

/-- The name of a value's kind in messages. -/
def kindName : Value → String
  | .null => "NoneType"
  | .bool _ => "bool"
  | .int _ => "int"
  | .float _ => "float"
  | .text _ => "str"
  | .bytes _ => "bytes"
  | .list _ | .hiddenList => "list"
  | .tuple _ => "tuple"
  | .set _ => "set"
  | .map _ | .hiddenMap => "dict"
  | .date _ => "date"
  | .dateTime _ => "datetime"

/-- Empty containers, zero, false and null count as absent; every other value as present. -/
def isTruthy : Value → Bool
  | .null => false
  | .bool truth => truth
  | .int number => number != 0
  | .float number => number.units? != some 0
  | .text content => content != ""
  | .bytes content => !content.isEmpty
  | .list items | .tuple items | .set items => !items.isEmpty
  | .map entries => !entries.isEmpty
  | .date _ | .dateTime _ | .hiddenList | .hiddenMap => true

/-! ## Equality -/

/-- The integer that a boolean or an integer denotes. -/
def toInt? : Value → Option Int
  | .bool truth => some (if truth then 1 else 0)
  | .int number => some number
  | _ => none

/-- Equality of two values neither of which is a container. -/
def sameLeaf : Value → Value → Bool
  | .null, .null => true
  | .text left, .text right => left == right
  | .bytes left, .bytes right => left == right
  | .date left, .date right => left == right
  | .dateTime left, .dateTime right => left.same right
  | .float left, .float right => left.same right
  | .float left, right => right.toInt?.any left.sameInt
  | left, .float right => left.toInt?.any right.sameInt
  | left, right =>
    match left.toInt?, right.toInt? with
    | some leftNumber, some rightNumber => leftNumber == rightNumber
    | _, _ => false

mutual
/-- Equality of values. -/
def same : Value → Value → Bool
  | .list left, .list right => sameItems left right
  | .tuple left, .tuple right => sameItems left right
  | .set left, .set right => left.length == right.length && sameMembers left right
  | .map left, .map right => left.length == right.length && sameEntries left right
  | left, right => sameLeaf left right

/-- Equality of sequences, item by item. -/
def sameItems : List Value → List Value → Bool
  | [], [] => true
  | left :: lefts, right :: rights => same left right && sameItems lefts rights
  | _, _ => false

/-- Every item of the first list equals one of the second. -/
def sameMembers : List Value → List Value → Bool
  | [], _ => true
  | left :: lefts, rights => rights.any (same left) && sameMembers lefts rights

/-- Every entry of the first mapping equals one of the second. -/
def sameEntries : List (Value × Value) → List (Value × Value) → Bool
  | [], _ => true
  | (key, value) :: lefts, rights =>
    (rights.any fun entry => same key entry.1 && same value entry.2) && sameEntries lefts rights
end

/-- Texts are equal when their contents are. -/
@[simp] theorem same_text (left right : String) :
    same (.text left) (.text right) = (left == right) := by
  simp [same, sameLeaf]

/-! ## Mappings -/

mutual
/-- The kind of the first part of a value that keeps it from being a key. -/
def unhashableKind? : Value → Option String
  | .list _ | .hiddenList => some "list"
  | .set _ => some "set"
  | .map _ | .hiddenMap => some "dict"
  | .tuple items => firstUnhashable? items
  | _ => none

/-- The kind of the first item that keeps a tuple from being a key. -/
def firstUnhashable? : List Value → Option String
  | [] => none
  | item :: items => (unhashableKind? item).or (firstUnhashable? items)
end

/-- Values that can be keys of a mapping: every value except mutable containers and the tuples
that hold one. -/
def isHashable (value : Value) : Bool := (unhashableKind? value).isNone

/-- Entries with one more assignment: an equal key keeps its place and its spelling and takes the
new value, a new key goes to the end. -/
def assign (key value : Value) : List (Value × Value) → List (Value × Value)
  | [] => [(key, value)]
  | (old, current) :: rest =>
    if same old key then (old, value) :: rest else (old, current) :: assign key value rest

/-- The entries that a sequence of assignments leaves. -/
def assignAll (assignments : List (Value × Value)) : List (Value × Value) :=
  assignments.foldl (fun entries entry => assign entry.1 entry.2 entries) []

/-- The mapping that a sequence of assignments leaves. -/
def ofAssignments (assignments : List (Value × Value)) : Value :=
  .map (assignAll assignments)

/-- The content of a text. -/
def asText? : Value → Option String
  | .text content => some content
  | _ => none

/-- The value at a text key. -/
def lookup? (entries : List (Value × Value)) (key : String) : Option Value :=
  (entries.find? fun entry => same entry.1 (.text key)).map (·.2)

/-- The value at a text key of a mapping; absent keys and values of other kinds give null. -/
def field (value : Value) (key : String) : Value :=
  match value with
  | .map entries => (lookup? entries key).getD .null
  | _ => .null

end Value

end FieldRules
