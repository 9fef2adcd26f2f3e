import FieldRules.Yaml.Cursor

/-!
# Tags

The tag of a node says what its content stands for.  A plain scalar without a tag
is tagged by its form: the words for null and for the booleans, numbers of
several notations, timestamps, and the signs for merging and for a default value.
Every other scalar without a tag is a string.
-/

set_option autoImplicit false

namespace FieldRules.Yaml

/-- The tags that have a meaning here; `unknown` is any other. -/
inductive Tag where
  | null
  | bool
  | int
  | float
  | binary
  | timestamp
  | omap
  | pairs
  | set
  | str
  | seq
  | map
  | merge
  | value
  | unknown
  deriving DecidableEq, Repr

namespace Tag

/-- What the names of the standard tags start with. -/
def standard : String := "tag:yaml.org,2002:"

/-- The standard tags by name. -/
def named : List (String × Tag) := [
  ("null", null), ("bool", bool), ("int", int), ("float", float), ("binary", binary),
  ("timestamp", timestamp), ("omap", omap), ("pairs", pairs), ("set", set), ("str", str),
  ("seq", seq), ("map", map), ("merge", merge), ("value", value)]

/-- The tag with a full name. -/
def ofName (name : String) : Tag :=
  ((named.find? fun entry => standard ++ entry.1 == name).map Prod.snd).getD unknown

/-! ## Forms of plain scalars -/

/-- A word in lower case, with a capital, and in capitals. -/
def casings (word : String) : List String := [word, word.capitalize, word.toUpper]

/-- The words for the booleans. -/
def boolWords : List String := ["yes", "no", "true", "false", "on", "off"].flatMap casings

/-- The words for null; the empty text is one. -/
def nullWords : List String := "" :: "~" :: casings "null"

/-- ASCII digits. -/
def isDigit (c : Char) : Bool := '0' ≤ c && c ≤ '9'

/-- ASCII digits and underscores. -/
def isDigitOrLine (c : Char) : Bool := isDigit c || c == '_'

/-- The text behind an optional sign. -/
def unsigned : List Char → List Char
  | '+' :: s | '-' :: s => s
  | s => s

/-- Whether a text is made of characters of a class, at least one. -/
def isRun (inClass : Char → Bool) (s : List Char) : Bool := !s.isEmpty && s.all inClass

/-- One or two digits of a number below sixty. -/
def isSixtieth : List Char → Bool
  | [c] => isDigit c
  | [a, b] => '0' ≤ a && a ≤ '5' && isDigit b
  | _ => false

/-- Integers: binary, octal, decimal or hexadecimal digits, or parts to base sixty. -/
def isInteger (s : List Char) : Bool :=
  match unsigned s with
  | ['0'] => true
  | '0' :: 'b' :: digits => isRun (fun c => c == '0' || c == '1' || c == '_') digits
  | '0' :: 'x' :: digits => isRun (fun c => (c.isDigit || ('a' ≤ c && c ≤ 'f')
      || ('A' ≤ c && c ≤ 'F')) || c == '_') digits
  | '0' :: digits => isRun (fun c => ('0' ≤ c && c ≤ '7') || c == '_') digits
  | first :: rest =>
    isDigit first &&
      match (first :: rest).splitOn ':' with
      | head :: parts => head.all isDigitOrLine && parts.all isSixtieth
      | [] => false
  | [] => false

/-- An optional exponent, whose sign is not optional. -/
def isExponent : List Char → Bool
  | [] => true
  | e :: sign :: digits =>
    (e == 'e' || e == 'E') && (sign == '+' || sign == '-') && isRun isDigit digits
  | _ => false

/-- Digits and underscores that start with a digit. -/
def startsWithDigit : List Char → Bool
  | first :: rest => isDigit first && rest.all isDigitOrLine
  | [] => false

/-- Digits to base sixty with a fraction behind the last. -/
def isSexagesimalFraction (s : List Char) : Bool :=
  match (s.takeWhile (· != '.')).splitOn ':', s.dropWhile (· != '.') with
  | head :: part :: parts, _ :: fraction =>
    startsWithDigit head && (part :: parts).all isSixtieth && fraction.all isDigitOrLine
  | _, _ => false

/-- Digits, a point, and perhaps more digits and an exponent. -/
def isDecimalFraction (s : List Char) : Bool :=
  match s.dropWhile (· != '.') with
  | _ :: behind =>
    startsWithDigit (s.takeWhile (· != '.')) && isExponent (behind.dropWhile isDigitOrLine)
  | [] => false

/-- Numbers with a point, and the names of the infinities and of not-a-number. -/
def isFraction (s : List Char) : Bool :=
  let body := unsigned s
  [".inf", ".Inf", ".INF"].contains (String.ofList body)
    || [".nan", ".NaN", ".NAN"].contains (String.ofList s)
    || isDecimalFraction body
    || isSexagesimalFraction body
    || (match s with
      | '.' :: first :: rest => isDigit first && isExponent (rest.dropWhile isDigitOrLine)
      | _ => false)

/-! ## Timestamps -/

/-- The parts of a timestamp as written: the date, and where there is one the time of day with the
digits of its fraction and its offset, which has a sign, hours and minutes. -/
structure Stamp where
  year : Nat
  month : Nat
  day : Nat
  clock : Option (Nat × Nat × Nat)
  fraction : List Nat
  offset : Option (Bool × Nat × Nat)
  strict : Bool

/-- The number of between `least` and `most` digits at the front of a text, how many they are, and
the rest. -/
def digits? (least most : Nat) (s : List Char) : Option (Nat × Nat × List Char) :=
  let run := (s.take most).takeWhile isDigit
  if run.length < least then none
  else some (Text.ofDigits 10 (Text.digitValues run), run.length, s.drop run.length)

/-- The rest of a text behind a character that it starts with. -/
def behind? (c : Char) : List Char → Option (List Char)
  | first :: s => if first == c then some s else none
  | [] => none

/-- Read an offset that makes up the rest of a timestamp. -/
def offset? (s : List Char) : Option (Option (Bool × Nat × Nat)) :=
  match s, s.dropWhile isGap with
  | [], _ => some none
  | _, ['Z'] => some (some (false, 0, 0))
  | _, sign :: rest =>
    if sign == '+' || sign == '-' then do
      let (hours, _, behindHours) ← digits? 1 2 rest
      match behindHours with
      | [] => some (some (sign == '-', hours, 0))
      | _ => do
        let (minutes, _, last) ← digits? 2 2 (← behind? ':' behindHours)
        if last.isEmpty then some (some (sign == '-', hours, minutes)) else none
    else none
  | _, [] => none

/-- Read what separates the time of day from the date. -/
def separator? : List Char → Option (List Char)
  | 'T' :: s | 't' :: s => some s
  | c :: s => if isGap c then some (s.dropWhile isGap) else none
  | [] => none

/-- Read a timestamp that makes up the whole text.  It is strict when a lone date has two digits
for the month and for the day. -/
def stamp? (s : List Char) : Option Stamp := do
  let (year, _, behindYear) ← digits? 4 4 s
  let (month, monthWidth, behindMonth) ← digits? 1 2 (← behind? '-' behindYear)
  let (day, dayWidth, behindDay) ← digits? 1 2 (← behind? '-' behindMonth)
  if behindDay.isEmpty then
    return ⟨year, month, day, none, [], none, monthWidth == 2 && dayWidth == 2⟩
  let (hour, _, behindHour) ← digits? 1 2 (← separator? behindDay)
  let (minute, _, behindMinute) ← digits? 2 2 (← behind? ':' behindHour)
  let (second, _, behindSecond) ← digits? 2 2 (← behind? ':' behindMinute)
  let (fraction, behindFraction) := match behindSecond with
    | '.' :: rest => (rest.takeWhile isDigit, rest.dropWhile isDigit)
    | rest => ([], rest)
  let offset ← offset? behindFraction
  return ⟨year, month, day, some (hour, minute, second), Text.digitValues fraction, offset, true⟩

/-! ## Tags by form -/

/-- A text without the line feed at its end.  A lone line feed is left as it is. -/
def withoutLineFeed (s : List Char) : List Char :=
  if 1 < s.length && s.getLast? == some '\n' then s.dropLast else s

/-- The tag of a plain scalar by its form, which takes no notice of a line feed at the end. -/
def ofForm (s : List Char) : Tag :=
  let body := withoutLineFeed s
  let word := String.ofList body
  if boolWords.contains word then bool
  else if nullWords.contains word then null
  else if isFraction body then float
  else if isInteger body then int
  else if word == "<<" then merge
  else if word == "=" then value
  else if (stamp? body).any (·.strict) then timestamp
  else if ["!", "&", "*"].contains word then unknown
  else str

end Tag

end FieldRules.Yaml
