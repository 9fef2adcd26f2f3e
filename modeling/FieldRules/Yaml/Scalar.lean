import FieldRules.Text.Blank
import FieldRules.Text.LowerCase
import FieldRules.Value.Basic
import FieldRules.Yaml.FlowScalar
import FieldRules.Yaml.Tag

/-!
# Values of YAML scalars

A scalar stands for a value according to its tag.  A tag that was given by form
fits its text, apart from numbers that are too large and dates that do not exist;
an explicit tag may stand on any text, and then the text has to be of the form
that the tag asks for.
-/

set_option autoImplicit false

namespace FieldRules.Yaml

/-! ## Numbers -/

/-- The text of a number without the underscores that group its digits. -/
def ungrouped (s : List Char) : List Char := s.filter (· != '_')

/-- Blanks around a number: the information separators are none. -/
def isNumberBlank (c : Char) : Bool :=
  Text.isBlank c && !(0x1C ≤ c.toNat && c.toNat ≤ 0x1F)

/-- A text without the blanks around it that may surround a number. -/
def trimNumber (s : List Char) : List Char :=
  ((s.dropWhile isNumberBlank).reverse.dropWhile isNumberBlank).reverse

/-- The value of a digit to a base up to sixteen: a decimal digit of any script or a letter. -/
def digitOfBase? (base : Nat) (c : Char) : Option Nat :=
  ((Text.digitValue? c).or (hexValue? c)).filter (· < base)

/-- The text behind the sign of a base, which may be left out. -/
def behindBase (base : Nat) (s : List Char) : List Char :=
  match s with
  | zero :: letter :: digits =>
    if Text.digitValue? zero == some 0
      && ((base == 2 && (letter == 'b' || letter == 'B'))
        || (base == 8 && (letter == 'o' || letter == 'O'))
        || (base == 16 && (letter == 'x' || letter == 'X'))) then digits
    else s
  | _ => s

/-- Read an integer to a base, with an optional sign and blanks around it.  Only decimal digits
are limited in number; they are counted up to the first character that is none. -/
def readInteger (base : Nat) (s : List Char) : Except Fault Int :=
  let (negative, body) := splitSign (trimNumber s)
  let digits := behindBase base body
  let run := digits.takeWhile fun c => (digitOfBase? base c).isSome
  if base == 10 && digitLimit < run.length then .error (.digits (.tooLongToRead run.length))
  else if run.isEmpty || run.length != digits.length then
    .error (.notInteger base (String.ofList s))
  else .ok (withSign negative (Text.ofDigits base (run.filterMap (digitOfBase? base))))

/-- The number whose digits to base sixty are given, the first one counting most. -/
def ofSixtieths (parts : List Int) : Int := parts.foldl (fun total part => total * 60 + part) 0

/-- Read the integer of a scalar: its notation tells the base. -/
def readInt (content : List Char) : Except Fault Int :=
  let (negative, body) := splitSign (ungrouped content)
  let signed (number : Int) : Int := if negative then -number else number
  if (ungrouped content).isEmpty then .error .emptyNumber
  else
    match body with
    | [] => .error .emptyNumber
    | ['0'] => .ok 0
    | '0' :: 'b' :: digits => (readInteger 2 digits).map signed
    | '0' :: 'x' :: digits => (readInteger 16 digits).map signed
    | '0' :: _ => (readInteger 8 body).map signed
    | _ =>
      if body.contains ':' then
        ((body.splitOn ':').mapM (readInteger 10)).map fun parts => signed (ofSixtieths parts)
      else (readInteger 10 body).map signed

/-- Read a floating-point number with blanks around it. -/
def readNumber (s : List Char) : Except Fault Binary64 :=
  match Binary64.ofNamedText? (trimNumber s) with
  | some number => .ok number
  | none => .error (.notNumber (String.ofList s))

/-- A power of sixty as a floating-point number; beyond the finite ones there is none. -/
def placeValue (power : Nat) : Except Fault Binary64 :=
  let weight := Binary64.ofNat power
  if weight.isFinite then .ok weight else .error .overflow

/-- The sum of parts to base sixty from the last part to the first, which are given in this
order. -/
def sumSixtieths (parts : List Binary64) : Except Fault Binary64 := do
  let step (state : Binary64 × Nat) (part : Binary64) : Except Fault (Binary64 × Nat) := do
    let weight ← placeValue state.2
    return (state.1.add (part.mul weight), state.2 * 60)
  let (total, _) ← parts.foldlM step (Binary64.zero false, 1)
  return total

/-- Read the floating-point number of a scalar. -/
def readFloat (content : List Char) : Except Fault Binary64 :=
  let lowered := Text.lower (ungrouped content)
  let (negative, body) := splitSign lowered
  let signed (number : Binary64) : Binary64 := if negative then number.negate else number
  if lowered.isEmpty then .error .emptyNumber
  else if body == ['.', 'i', 'n', 'f'] then .ok (.infinite negative)
  else if body == ['.', 'n', 'a', 'n'] then .ok .nan
  else if body.contains ':' then
    ((body.splitOn ':').mapM readNumber).bind fun parts =>
      (sumSixtieths parts.reverse).map signed
  else (readNumber body).map signed

/-- Whether a scalar names not-a-number by its sign, with a point in front. -/
def namesNan (content : List Char) : Bool :=
  (splitSign (Text.lower (ungrouped content))).2 == ['.', 'n', 'a', 'n']

/-! ## Booleans, timestamps and bytes -/

/-- Read the boolean of a scalar. -/
def readBool (content : List Char) : Except Fault Bool :=
  let word := String.ofList (Text.lower content)
  if ["yes", "true", "on"].contains word then .ok true
  else if ["no", "false", "off"].contains word then .ok false
  else .error (.notBoolean word)

/-- The microseconds of a fraction of a second; further digits are dropped. -/
def microseconds (fraction : List Nat) : Nat :=
  Text.ofDigits 10 (fraction.take 6 ++ List.replicate (6 - fraction.length) 0)

/-- The date or point in time of a timestamp. -/
def stampValue (stamp : Tag.Stamp) : Except CalendarFault Value :=
  match stamp.clock with
  | none => (Date.ofParts stamp.year stamp.month stamp.day).map .date
  | some (hour, minute, second) =>
    let offset := stamp.offset.map fun (negative, hours, minutes) =>
      withSign negative (hours * 60 + minutes)
    (DateTime.ofParts stamp.year stamp.month stamp.day hour minute second
      (microseconds stamp.fraction) offset).map .dateTime

/-- Read the timestamp of a scalar. -/
def readTimestamp (content : List Char) : Except Fault Value :=
  match Tag.stamp? (Tag.withoutLineFeed content) with
  | none => .error .notTimestamp
  | some stamp =>
    match stampValue stamp with
    | .ok value => .ok value
    | .error fault => .error (.calendar fault)

/-- The value of a digit to base sixty-four. -/
def base64Value? (c : Char) : Option Nat :=
  if 'A' ≤ c && c ≤ 'Z' then some (c.toNat - 'A'.toNat)
  else if 'a' ≤ c && c ≤ 'z' then some (c.toNat - 'a'.toNat + 26)
  else if '0' ≤ c && c ≤ '9' then some (c.toNat - '0'.toNat + 52)
  else if c == '+' then some 62
  else if c == '/' then some 63
  else none

/-- Decode digits to base sixty-four from a place in a group of four on; the rest of the last
digit and the signs that fill up the group so far are given.  Other characters are passed over.
The text may end only where a group does, or where it is filled up. -/
def decodeBase64 (place left fill : Nat) : List Char → Option (List UInt8)
  | [] => if place == 0 then some [] else none
  | c :: s =>
    if c == '=' then
      if 2 ≤ place then
        if 4 ≤ place + fill + 1 then some [] else decodeBase64 place left (fill + 1) s
      else decodeBase64 place left fill s
    else
      match base64Value? c with
      | none => decodeBase64 place left fill s
      | some digit =>
        match place with
        | 0 => decodeBase64 1 digit 0 s
        | 1 => (decodeBase64 2 (digit % 16) 0 s).map (UInt8.ofNat (left * 4 + digit / 16) :: ·)
        | 2 => (decodeBase64 3 (digit % 4) 0 s).map (UInt8.ofNat (left * 16 + digit / 4) :: ·)
        | _ => (decodeBase64 0 0 0 s).map (UInt8.ofNat (left * 64 + digit) :: ·)

/-- Read the bytes of a scalar. -/
def readBinary (content : List Char) : Except Fault Value :=
  if content.all fun c => c.toNat < 0x80 then
    match decodeBase64 0 0 0 content with
    | some bytes => .ok (.bytes bytes)
    | none => .error .unreadable
  else .error .unreadable

/-! ## Scalars -/

/-- Read a scalar by its tag. -/
def readScalar (tag : Tag) (content : List Char) : Except Fault Value :=
  match tag with
  | .null => .ok .null
  | .bool => (readBool content).map .bool
  | .int => (readInt content).map .int
  | .float => (readFloat content).map .float
  | .binary => readBinary content
  | .timestamp => readTimestamp content
  | .str => .ok (.text (String.ofList content))
  | _ => .error .unreadable

end FieldRules.Yaml
