import FieldRules.Yaml.Cursor

/-!
# Plain and quoted scalars

The scalars that may stand inside a line: plain ones, which end where the
surrounding structure goes on, and quoted ones, which end at their closing
quote.  Both may run over several lines, which are then folded into one.

A single-quoted scalar knows one escape, the doubled quote; a double-quoted one
has escapes for control characters, for any character by its code, and for line
ends.
-/

set_option autoImplicit false

namespace FieldRules.Yaml

/-! ## Quoted scalars -/

/-- The characters with an escape of one letter. -/
def shortEscape? (c : Char) : Option Char :=
  match c with
  | '0' => some '\x00'
  | 'a' => some '\x07'
  | 'b' => some '\x08'
  | 't' | '\t' => some '\t'
  | 'n' => some '\n'
  | 'v' => some '\x0b'
  | 'f' => some '\x0c'
  | 'r' => some '\r'
  | 'e' => some '\x1b'
  | ' ' => some ' '
  | '\x22' => some '\x22'
  | '/' => some '/'
  | '\x5c' => some '\x5c'
  | 'N' => some '\u0085'
  | '_' => some '\u00a0'
  | 'L' => some '\u2028'
  | 'P' => some '\u2029'
  | _ => none

/-- The number of hexadecimal digits behind the letter of a numeric escape. -/
def escapeWidth? (c : Char) : Option Nat :=
  match c with
  | 'x' => some 2
  | 'u' => some 4
  | 'U' => some 8
  | _ => none

/-- The value of a hexadecimal digit. -/
def hexValue? (c : Char) : Option Nat :=
  if c.isDigit then some (c.toNat - '0'.toNat)
  else if 'a' ≤ c && c ≤ 'f' then some (c.toNat - 'a'.toNat + 10)
  else if 'A' ≤ c && c ≤ 'F' then some (c.toNat - 'A'.toNat + 10)
  else none

/-- The number that exactly so many hexadecimal digits at the front of a text denote. -/
def hexNumber? (width : Nat) (s : List Char) : Option Nat :=
  let digits := s.take width
  if digits.length == width then
    digits.foldlM (fun total c => (hexValue? c).map (total * 16 + ·)) 0
  else none

/-- The character with a code; codes that belong to no character by themselves give the
replacement character. -/
def charOfCode (code : Nat) : Except Fault Char :=
  if 0x7FFFFFFF < code then .error .codePointOverflow
  else if 0x10FFFF < code then .error .codePoint
  else if 0xD800 ≤ code && code ≤ 0xDFFF then .ok '\ufffd'
  else .ok (Char.ofNat code)

/-- The line ends inside a quoted scalar, without the gaps around them.  No line may start with a
document mark.  The count bounds the steps. -/
def quotedLineEnds : Nat → Cursor → Except Fault (List Char × Cursor)
  | 0, _ => .error .unreadable
  | count + 1, cursor =>
    if cursor.atDocumentMark then .error .unreadable
    else
      let behind := cursor.skip isGap
      match behind.lineEnd? with
      | some (ended, following) => do
        let (others, last) ← quotedLineEnds count following
        return (ended :: others, last)
      | none => .ok ([], behind)

/-- Read an escape behind its backslash. -/
def readEscape (count : Nat) (cursor : Cursor) : Except Fault (List Char × Cursor) :=
  match cursor.peek with
  | none => .error .unreadable
  | some c =>
    match shortEscape? c with
    | some escaped => .ok ([escaped], cursor.next)
    | none =>
      match escapeWidth? c with
      | some width =>
        match hexNumber? width cursor.next.rest with
        | some code => (charOfCode code).map fun escaped => ([escaped], cursor.advance (width + 1))
        | none => .error .unreadable
      | none =>
        match cursor.lineEnd? with
        | some (_, following) => quotedLineEnds count following
        | none => .error .unreadable

/-- Read gaps and line ends inside a quoted scalar. -/
def readQuotedGap (count : Nat) (cursor : Cursor) : Except Fault (List Char × Cursor) :=
  let (gap, behind) := cursor.span isGap
  match behind.lineEnd? with
  | some (ended, following) => do
    let (others, last) ← quotedLineEnds count following
    return (fold ended others, last)
  | none => if behind.peek.isNone then .error .unreadable else .ok (gap, behind)

/-- Read one piece of a quoted scalar, or nothing at the closing quote. -/
def readQuotedPiece (quote : Char) (count : Nat) (cursor : Cursor) :
    Except Fault (Option (List Char × Cursor)) :=
  match cursor.peek with
  | none => .error .unreadable
  | some c =>
    if c == quote then
      if quote == '\x27' && cursor.peekNext == some quote then
        .ok (some ([quote], cursor.advance 2))
      else .ok none
    else if quote == '\x22' && c == '\x5c' then (readEscape count cursor.next).map some
    else if isGap c || isLineEnd c then (readQuotedGap count cursor).map some
    else .ok (some ([c], cursor.next))

/-- Read a quoted scalar behind its opening quote.  The count bounds the steps, and the pieces
read so far are kept in reverse. -/
def readQuotedFrom (quote : Char) : Nat → List Char → Cursor → Except Fault (List Char × Cursor)
  | 0, _, _ => .error .unreadable
  | count + 1, read, cursor => do
    match ← readQuotedPiece quote count cursor with
    | none => return (read.reverse, cursor.next)
    | some (piece, following) => readQuotedFrom quote count (piece.reverse ++ read) following

/-- Read a quoted scalar at its opening quote. -/
def readQuoted (quote : Char) (cursor : Cursor) : Except Fault (List Char × Cursor) :=
  readQuotedFrom quote (cursor.left + 1) [] cursor.next

/-! ## Plain scalars -/

/-- The signs of flow collections that may follow a colon without a gap. -/
def isFlowSign (c : Char) : Bool :=
  c == ',' || c == '[' || c == ']' || c == '\x7b' || c == '\x7d'

/-- Whether a plain scalar ends before a character, given what follows the character. -/
def endsPlain (inFlow : Bool) (c : Char) (following : Option Char) : Bool :=
  isGap c || isLineEnd c
    || (c == ':' && (endsWord following || (inFlow && following.any isFlowSign)))
    || (inFlow && (c == '?' || isFlowSign c))

/-- The word of a plain scalar at the front of a text. -/
def plainWord (inFlow : Bool) : List Char → List Char
  | [] => []
  | c :: rest => if endsPlain inFlow c rest.head? then [] else c :: plainWord inFlow rest

/-- What stands between two words of a plain scalar: nothing when the scalar has to end, the
place behind it, and whether a line ended. -/
structure PlainGap where
  content : List Char
  behind : Cursor
  lineEnded : Bool

/-- The further line ends between two lines of a plain scalar, and whether a document mark stands
behind one of them.  The count bounds the steps. -/
def plainLineEnds : Nat → Cursor → List Char × Cursor × Bool
  | 0, cursor => ([], cursor, false)
  | count + 1, cursor =>
    if cursor.atDocumentMark then ([], cursor, true)
    else
      let behind := cursor.skip (· == ' ')
      match behind.lineEnd? with
      | some (ended, following) =>
        let (others, last, marked) := plainLineEnds count following
        (ended :: others, last, marked)
      | none => ([], behind, false)

/-- Read what stands between two words of a plain scalar. -/
def readPlainGap (cursor : Cursor) : PlainGap :=
  let (gap, behind) := cursor.span (· == ' ')
  match behind.lineEnd? with
  | some (ended, following) =>
    let (others, last, marked) := plainLineEnds (following.left + 1) following
    ⟨if marked then [] else fold ended others, last, true⟩
  | none => ⟨gap, behind, false⟩

/-- A plain scalar that was read: its text, the place behind it, and whether a line ended there. -/
structure PlainScalar where
  text : List Char
  behind : Cursor
  lineEnded : Bool

/-- Read a plain scalar from a word on.  The scalar goes on after a gap unless a comment starts
there or, outside flow collections, the line is not indented far enough.  The count bounds the
steps, and the text read so far is kept in reverse. -/
def readPlainFrom (inFlow : Bool) (indent : Int) :
    Nat → List Char → PlainGap → PlainScalar
  | 0, read, gap => ⟨read.reverse, gap.behind, gap.lineEnded⟩
  | count + 1, read, gap =>
    let word := if gap.behind.isAt '#' then [] else plainWord inFlow gap.behind.rest
    if word.isEmpty then ⟨read.reverse, gap.behind, gap.lineEnded⟩
    else
      let following := readPlainGap (gap.behind.advance word.length)
      let longer := word.reverse ++ (gap.content.reverse ++ read)
      if following.content.isEmpty || (!inFlow && (following.behind.column : Int) ≤ indent) then
        ⟨longer.reverse, following.behind, following.lineEnded⟩
      else readPlainFrom inFlow indent count longer following

/-- Read a plain scalar.  The indentation is that of the surrounding block. -/
def readPlain (inFlow : Bool) (indent : Int) (cursor : Cursor) : PlainScalar :=
  readPlainFrom inFlow indent (cursor.left + 1) [] ⟨[], cursor, false⟩

end FieldRules.Yaml
