import FieldRules.Text.Printable

/-!
# Quoted texts

The quoted form of a text shows it inside a message: between quotes, on one
line, with everything escaped that would not be seen as itself.  The quote is
an apostrophe unless the text holds an apostrophe and no double quote.

Bytes are quoted in the same way, with a leading `b` and with every byte outside
printable ASCII escaped.
-/

set_option autoImplicit false

namespace FieldRules.Text

/-- The quote that needs the least escaping: the double quote for a text with an apostrophe and
no double quote, the apostrophe for every other text. -/
def chooseQuote (s : List Char) : Char :=
  if s.contains '\x27' && !s.contains '\x22' then '\x22' else '\x27'

/-- The lower-case hexadecimal digits of a number, padded with zeros to a width. -/
def hexPadded (width number : Nat) : List Char :=
  let digits := Nat.toDigits 16 number
  List.replicate (width - digits.length) '0' ++ digits

/-- The numeric escape of a character: two, four or eight hexadecimal digits after a letter that
tells which. -/
def numericEscape (code : Nat) : List Char :=
  if code < 0x100 then '\x5c' :: 'x' :: hexPadded 2 code
  else if code < 0x10000 then '\x5c' :: 'u' :: hexPadded 4 code
  else '\x5c' :: 'U' :: hexPadded 8 code

/-- A character inside a quoted text.  The backslash, the quote and the three line controls have
short escapes, every other unprintable character a numeric one. -/
def escapeChar (quote c : Char) : List Char :=
  if c == quote || c == '\x5c' then ['\x5c', c]
  else if c == '\n' then ['\x5c', 'n']
  else if c == '\r' then ['\x5c', 'r']
  else if c == '\t' then ['\x5c', 't']
  else if isPrintable c then [c]
  else numericEscape c.toNat

/-- The quoted form of a text. -/
def quote (s : List Char) : List Char :=
  let mark := chooseQuote s
  mark :: s.flatMap (escapeChar mark) ++ [mark]

/-- The quoted form of a string. -/
def quoted (s : String) : String := String.ofList (quote s.toList)

/-- A byte inside quoted bytes: printable ASCII stands for itself. -/
def escapeByte (mark : Char) (byte : UInt8) : List Char :=
  let c := Char.ofNat byte.toNat
  if byte.toNat < 0x7F then escapeChar mark c else numericEscape byte.toNat

/-- The quoted form of bytes. -/
def quotedBytes (bytes : List UInt8) : String :=
  let mark := chooseQuote (bytes.map fun byte => Char.ofNat byte.toNat)
  String.ofList ('b' :: mark :: bytes.flatMap (escapeByte mark) ++ [mark])

end FieldRules.Text
