import FieldRules.Yaml.Cursor

/-!
# Block scalars

A scalar written over indented lines below its indicator, either line by line as
it stands or folded.  The indentation is that of the first line with content
unless the header gives it, and the header also tells what becomes of the line
ends after the last line.
-/

set_option autoImplicit false

namespace FieldRules.Yaml

/-- What becomes of the line ends after the last line of a block scalar. -/
inductive Chomping where
  | strip
  | clip
  | keep
  deriving DecidableEq, Repr

/-- The header of a block scalar. -/
structure BlockHeader where
  chomping : Chomping
  indentation : Option Nat

/-- The chomping that a sign asks for. -/
def chomping? (c : Char) : Option Chomping :=
  if c == '+' then some .keep else if c == '-' then some .strip else none

/-- Read the sign for the chomping, if there is one. -/
def readChomping (cursor : Cursor) : Option Chomping × Cursor :=
  match cursor.peek.bind chomping? with
  | some chomping => (some chomping, cursor.next)
  | none => (none, cursor)

/-- Read the digit for the indentation, if there is one; it must not be zero. -/
def readIndentation (cursor : Cursor) : Except Fault (Option Nat × Cursor) :=
  match cursor.peek with
  | none => .ok (none, cursor)
  | some c =>
    if c == '0' then .error .unreadable
    else if c.isDigit then .ok (some (c.toNat - '0'.toNat), cursor.next)
    else .ok (none, cursor)

/-- Read the header of a block scalar up to the end of its line.  The sign and the digit may stand
in either order. -/
def readHeader (cursor : Cursor) : Except Fault (BlockHeader × Cursor) := do
  let (early, behindSign) := readChomping cursor
  let (indentation, behindDigit) ← readIndentation behindSign
  let (late, behind) :=
    if early.isNone && indentation.isSome then readChomping behindDigit else (none, behindDigit)
  if !endsPart behind.peek then throw .unreadable
  let last := behind.skipComment
  if !endsLine last.peek then throw .unreadable
  let following := (last.lineEnd?.map Prod.snd).getD last
  return (⟨(early.or late).getD .clip, indentation⟩, following)

/-- Pass over the empty lines before the first line with content; the result holds their line
ends, the greatest column that their spaces reach, and the place behind them.  The count bounds
the steps. -/
def emptyLines : Nat → Nat → Cursor → List Char × Nat × Cursor
  | 0, widest, cursor => ([], widest, cursor)
  | count + 1, widest, cursor =>
    let behind := cursor.skip (· == ' ')
    let reached := if cursor.isAt ' ' then max widest behind.column else widest
    match behind.lineEnd? with
    | some (ended, following) =>
      let (others, last) := emptyLines count reached following
      (ended :: others, last)
    | none => ([], reached, behind)

/-- Pass over spaces up to a column. -/
def indentTo (column : Nat) : Nat → Cursor → Cursor
  | 0, cursor => cursor
  | count + 1, cursor =>
    if cursor.column < column && cursor.isAt ' ' then indentTo column count cursor.next
    else cursor

/-- Pass over the empty lines before a line of a block scalar, and over the indentation of that
line.  The count bounds the steps. -/
def blankLines (indent : Nat) : Nat → Cursor → List Char × Cursor
  | 0, cursor => ([], cursor)
  | count + 1, cursor =>
    let behind := indentTo indent indent cursor
    match behind.lineEnd? with
    | some (ended, following) =>
      let (others, last) := blankLines indent count following
      (ended :: others, last)
    | none => ([], behind)

/-- Whether a line of content starts at a place. -/
def startsLine (indent : Nat) (cursor : Cursor) : Bool :=
  cursor.column == indent && cursor.peek.isSome

/-- What the line ends between two lines of a block scalar stand for.  Folding joins two lines
unless one of them starts with a gap. -/
def joinLines (folded flush : Bool) (ended : List Char) (empties : List Char) : List Char :=
  if folded && flush && ended == ['\n'] then
    if empties.isEmpty then [' '] else empties
  else ended ++ empties

/-- The line ends after the last line, as the chomping asks for them. -/
def chomp (chomping : Chomping) (ended empties : List Char) : List Char :=
  match chomping with
  | .strip => []
  | .clip => ended
  | .keep => ended ++ empties

/-- Read the lines of a block scalar from the start of one on.  The count bounds the steps. -/
def readLines (folded : Bool) (chomping : Chomping) (indent : Nat) :
    Nat → Cursor → List Char × Cursor
  | 0, cursor => ([], cursor)
  | count + 1, cursor =>
    let (line, behind) := cursor.span fun c => !isLineEnd c
    let (ended, following) := match behind.lineEnd? with
      | some (c, following) => ([c], following)
      | none => ([], behind)
    let (empties, last) := blankLines indent (following.left + 1) following
    if startsLine indent last then
      let flush := !(cursor.peek.any isGap) && !(last.peek.any isGap)
      let (others, final) := readLines folded chomping indent count last
      (line ++ joinLines folded flush ended empties ++ others, final)
    else (line ++ chomp chomping ended empties, last)

/-- Read a block scalar behind its indicator.  The indentation is that of the surrounding
block. -/
def readBlock (folded : Bool) (outer : Int) (cursor : Cursor) :
    Except Fault (List Char × Cursor) := do
  let (header, behind) ← readHeader cursor
  let least := (max (outer + 1) 1).toNat
  let count := behind.left + 1
  let (indent, empties, first) := match header.indentation with
    | some given =>
      let indent := least + given - 1
      (indent, blankLines indent count behind)
    | none =>
      let (empties, widest, first) := emptyLines count 0 behind
      (max least widest, empties, first)
  if startsLine indent first then
    let (content, last) := readLines folded header.chomping indent count first
    return (empties ++ content, last)
  else return (chomp header.chomping [] empties, first)

end FieldRules.Yaml
