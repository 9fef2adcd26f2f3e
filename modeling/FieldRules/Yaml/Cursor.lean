import FieldRules.Yaml.Fault

/-!
# A place in a YAML text

A YAML text is read from front to back.  A cursor is a place in it: what is still
to be read and how much that is, and the line and column of the place.

Lines end at a carriage return, a line feed, the two together, the control
character for the next line, or one of the two separators.  Columns count
characters, except that a byte-order mark takes no room.
-/

set_option autoImplicit false

namespace FieldRules.Yaml

/-! ## Characters -/

/-- Characters that end a line. -/
def isLineEnd (c : Char) : Bool :=
  c == '\n' || c == '\r' || c == '\u0085' || c == '\u2028' || c == '\u2029'

/-- Spaces and tabs. -/
def isGap (c : Char) : Bool := c == ' ' || c == '\t'

/-- Whether a line, or the text, ends here. -/
def endsLine (next : Option Char) : Bool := next.all isLineEnd

/-- Whether a space, a line end or the end of the text stands here. -/
def endsPart (next : Option Char) : Bool := next.all fun c => c == ' ' || isLineEnd c

/-- Whether a space, a tab, a line end or the end of the text stands here. -/
def endsWord (next : Option Char) : Bool := next.all fun c => isGap c || isLineEnd c

/-- Letters, digits, hyphens and underscores, of which names are made. -/
def isNameChar (c : Char) : Bool := c.isAlphanum || c == '-' || c == '_'

/-- Characters that may stand in a YAML text. -/
def isAllowed (c : Char) : Bool :=
  let code := c.toNat
  code == 0x09 || code == 0x0A || code == 0x0D || (0x20 ≤ code && code ≤ 0x7E) || code == 0x85
    || (0xA0 ≤ code && code ≤ 0xFFFD) || 0x10000 ≤ code

/-! ## Cursors -/

/-- A place in a text. -/
structure Cursor where
  rest : List Char
  left : Nat
  line : Nat
  column : Nat

namespace Cursor

/-- The front of a text. -/
def start (text : List Char) : Cursor := ⟨text, text.length, 0, 0⟩

/-- The character at a place. -/
def peek (cursor : Cursor) : Option Char := cursor.rest.head?

/-- Whether a character stands at a place. -/
def isAt (cursor : Cursor) (c : Char) : Bool := cursor.peek == some c

/-- The character after the one at a place. -/
def peekNext (cursor : Cursor) : Option Char := cursor.rest.tail.head?

/-- The place one character further.  A line is ended by its last character. -/
def next (cursor : Cursor) : Cursor :=
  match cursor.rest with
  | [] => cursor
  | c :: rest =>
    if isLineEnd c && !(c == '\r' && rest.head? == some '\n') then
      ⟨rest, cursor.left - 1, cursor.line + 1, 0⟩
    else
      ⟨rest, cursor.left - 1, cursor.line,
        if c == '\ufeff' then cursor.column else cursor.column + 1⟩

/-- The place a number of characters further. -/
def advance (cursor : Cursor) : Nat → Cursor
  | 0 => cursor
  | count + 1 => cursor.next.advance count

/-- The characters of a class that stand at a place, and the place behind them. -/
def span (cursor : Cursor) (inClass : Char → Bool) : List Char × Cursor :=
  let run := cursor.rest.takeWhile inClass
  (run, cursor.advance run.length)

/-- The place behind the characters of a class. -/
def skip (cursor : Cursor) (inClass : Char → Bool) : Cursor := (cursor.span inClass).2

/-- The place at the end of the line. -/
def skipLine (cursor : Cursor) : Cursor := cursor.skip fun c => !isLineEnd c

/-- The place behind spaces, and behind a comment if one follows. -/
def skipComment (cursor : Cursor) : Cursor :=
  let behind := cursor.skip (· == ' ')
  if behind.isAt '#' then behind.skipLine else behind

/-- The line end at a place and the place behind it.  The two separators stand for themselves,
every other line end for a line feed. -/
def lineEnd? (cursor : Cursor) : Option (Char × Cursor) :=
  match cursor.rest with
  | '\r' :: '\n' :: _ => some ('\n', cursor.advance 2)
  | c :: _ =>
    if c == '\u2028' || c == '\u2029' then some (c, cursor.next)
    else if isLineEnd c then some ('\n', cursor.next)
    else none
  | [] => none

/-- Whether three hyphens or three dots stand at a place as a word. -/
def atDocumentMark (cursor : Cursor) : Bool :=
  match cursor.rest with
  | a :: b :: c :: rest =>
    ((a == '-' && b == '-' && c == '-') || (a == '.' && b == '.' && c == '.'))
      && endsWord rest.head?
  | _ => false

/-- The line ends at a place and the place behind them, where characters of a class are passed
over before each.  The count bounds the steps. -/
def lineEnds (gap : Char → Bool) : Nat → Cursor → List Char × Cursor
  | 0, cursor => ([], cursor)
  | count + 1, cursor =>
    let behind := cursor.skip gap
    match behind.lineEnd? with
    | some (ended, following) =>
      let (others, last) := lineEnds gap count following
      (ended :: others, last)
    | none => ([], behind)

end Cursor

/-! ## Folding -/

/-- What the line ends between two lines of a folded scalar stand for: a single line feed is a
space, and the first of several line feeds is dropped. -/
def fold (first : Char) (others : List Char) : List Char :=
  if first != '\n' then first :: others
  else if others.isEmpty then [' ']
  else others

end FieldRules.Yaml
