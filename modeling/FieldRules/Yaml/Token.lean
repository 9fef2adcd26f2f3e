import FieldRules.Yaml.BlockScalar
import FieldRules.Yaml.FlowScalar

/-!
# Tokens of a YAML text

A YAML text is first cut into tokens: the signs of the structure, names, tags and
scalars.  Indentation becomes tokens too, for the start of a block collection and
for its end.

A key of a mapping need not be announced by a sign.  Whether something was a key
is known only when the colon behind it is met, on the same line and at most 1024
characters later.  Until then its place is kept, and the tokens for the key, and
for the start of the mapping if this is its first key, are put in at that place
afterwards.

The text is read only as far as the next token asks for: a token is given out
when no key can start at its place any more.  A fault of the text is a token too,
the last one, at the first place that cannot be given out because of it.  So
whoever reads the tokens in order meets the faults in the order of the text.
-/

set_option autoImplicit false

namespace FieldRules.Yaml

/-- A token. -/
inductive Token where
  | version (major : Nat)
  | handle (name replacement : String)
  | otherDirective
  | documentStart
  | documentEnd
  | blockSequenceStart
  | blockMappingStart
  | blockEnd
  | flowSequenceStart
  | flowSequenceEnd
  | flowMappingStart
  | flowMappingEnd
  | blockEntry
  | flowEntry
  | key
  | value
  | alias (name : String)
  | anchor (name : String)
  | tag (handle : Option String) (suffix : String)
  | scalar (plain : Bool) (content : List Char)
  | broken (fault : Fault)
  deriving DecidableEq, Repr

/-! ## Names, tags and directives -/

/-- Read a name of at least one character. -/
def readName (cursor : Cursor) : Except Fault (List Char × Cursor) :=
  let (name, behind) := cursor.span isNameChar
  if name.isEmpty then .error .unreadable else .ok (name, behind)

/-- The signs that may follow the name of an anchor directly. -/
def followsAnchor (c : Char) : Bool :=
  ['?', ':', ',', ']', '\x7d', '%', '@', '\x60'].contains c

/-- Read the name of an anchor or alias behind its sign. -/
def readAnchor (cursor : Cursor) : Except Fault (String × Cursor) := do
  let (name, behind) ← readName cursor
  if endsWord behind.peek || behind.peek.any followsAnchor then
    return (String.ofList name, behind)
  else throw .unreadable

/-- The characters of a tag. -/
def isTagChar (c : Char) : Bool :=
  c.isAlphanum || ['-', ';', '/', '?', ':', '@', '&', '=', '+', '$', ',', '_', '.', '!', '~', '*',
    '\x27', '(', ')', '[', ']', '%'].contains c

/-- The bytes that escapes of a percent sign and two hexadecimal digits stand for, at the front of
a text, and the rest behind them.  The count bounds the steps. -/
def escapedBytes? : Nat → List Char → Option (List UInt8 × List Char)
  | count + 1, '%' :: s =>
    (hexNumber? 2 s).bind fun byte =>
      (escapedBytes? count (s.drop 2)).map fun (bytes, rest) => (UInt8.ofNat byte :: bytes, rest)
  | _, s => some ([], s)

/-- The text that the characters of a tag stand for.  Escaped bytes have to spell out characters.
The count bounds the steps. -/
def unescapeTag? : Nat → List Char → Option (List Char)
  | _, [] => some []
  | 0, _ => none
  | count + 1, c :: s =>
    if c == '%' then do
      let (bytes, rest) ← escapedBytes? (s.length + 1) (c :: s)
      let decoded ← String.fromUTF8? ⟨bytes.toArray⟩
      let others ← unescapeTag? count rest
      return decoded.toList ++ others
    else (unescapeTag? count s).map (c :: ·)

/-- Read the characters of a tag, at least one. -/
def readTagText (cursor : Cursor) : Except Fault (String × Cursor) :=
  let (run, behind) := cursor.span isTagChar
  if run.isEmpty then .error .unreadable
  else
    match unescapeTag? run.length run with
    | some content => .ok (String.ofList content, behind)
    | none => .error .unreadable

/-- Read a tag handle: an exclamation mark alone before a space, or two with a name between
them, which may be empty. -/
def readHandle (cursor : Cursor) : Except Fault (String × Cursor) :=
  if !cursor.isAt '!' then .error .unreadable
  else
    let inside := cursor.next
    if inside.isAt ' ' then .ok ("!", inside)
    else
      let (name, behind) := inside.span isNameChar
      if behind.isAt '!' then .ok (String.ofList ('!' :: name ++ ['!']), behind.next)
      else .error .unreadable

/-- Read a tag at its exclamation mark. -/
def readTag (cursor : Cursor) : Except Fault (Token × Cursor) := do
  let (token, behind) ←
    if cursor.peekNext == some '<' then do
      let (suffix, last) ← readTagText (cursor.advance 2)
      if last.isAt '>' then pure (Token.tag none suffix, last.next) else throw .unreadable
    else if endsWord cursor.peekNext then pure (Token.tag none "!", cursor.next)
    else
      let word := cursor.next.rest.takeWhile fun c => !endsPart (some c)
      if word.contains '!' then do
        let (handle, inside) ← readHandle cursor
        let (suffix, last) ← readTagText inside
        pure (Token.tag (some handle) suffix, last)
      else do
        let (suffix, last) ← readTagText cursor.next
        pure (Token.tag (some "!") suffix, last)
  if endsPart behind.peek then return (token, behind) else throw .unreadable

/-- Read a number of a version. -/
def readVersionNumber (cursor : Cursor) : Except Fault (Nat × Cursor) :=
  let (digits, behind) := cursor.span Char.isDigit
  if digits.isEmpty then .error .unreadable
  else if digitLimit < digits.length then .error (.digits (.tooLongToRead digits.length))
  else .ok (Text.ofDigits 10 (Text.digitValues digits), behind)

/-- Read the version that a directive names. -/
def readVersion (cursor : Cursor) : Except Fault (Token × Cursor) := do
  let (major, point) ← readVersionNumber (cursor.skip (· == ' '))
  if !point.isAt '.' then throw .unreadable
  let (_, behind) ← readVersionNumber point.next
  if endsPart behind.peek then return (.version major, behind) else throw .unreadable

/-- Read the handle that a directive declares, and what it stands for. -/
def readHandleDirective (cursor : Cursor) : Except Fault (Token × Cursor) := do
  let (name, gap) ← readHandle (cursor.skip (· == ' '))
  if !gap.isAt ' ' then throw .unreadable
  let (replacement, behind) ← readTagText (gap.skip (· == ' '))
  if endsPart behind.peek then return (.handle name replacement, behind) else throw .unreadable

/-- Read a directive at its percent sign, to the end of its line. -/
def readDirective (cursor : Cursor) : Except Fault (Token × Cursor) := do
  let (name, behindName) ← readName cursor.next
  if !endsPart behindName.peek then throw .unreadable
  let (token, behind) ←
    if name == ['Y', 'A', 'M', 'L'] then readVersion behindName
    else if name == ['T', 'A', 'G'] then readHandleDirective behindName
    else pure (Token.otherDirective, behindName.skipLine)
  let last := behind.skipComment
  if endsLine last.peek then return (token, (last.lineEnd?.map Prod.snd).getD last)
  else throw .unreadable

/-! ## The state of the reader -/

/-- A place where a key may have started: the number of tokens before it, and where it stands.  In
a block, what starts at the indentation of the block has to be a key. -/
structure KeyPlace where
  position : Nat
  required : Bool
  left : Nat
  line : Nat
  column : Nat

/-- The reader of tokens: its place in the text, the tokens so far in reverse and their number,
whether a key may start here, the indentation of the current block and those of the blocks around
it, the places of possible keys, in the innermost collection and in those around it up to the
block, and whether the text has ended. -/
structure Lexer where
  cursor : Cursor
  tokens : List Token
  count : Nat
  keyAllowed : Bool
  indent : Int
  outerIndents : List Int
  keyPlace : Option KeyPlace
  outerPlaces : List (Option KeyPlace)
  ended : Bool

namespace Lexer

/-- The reader at the front of a text.  A byte-order mark there is passed over. -/
def start (text : List Char) : Lexer :=
  let cursor := Cursor.start text
  let front := if cursor.isAt '\ufeff' then cursor.next else cursor
  ⟨front, [], 0, true, -1, [], none, [], false⟩

/-- Whether the place is inside a flow collection. -/
def inFlow (lexer : Lexer) : Bool := !lexer.outerPlaces.isEmpty

/-- The reader with one more token. -/
def push (lexer : Lexer) (token : Token) : Lexer :=
  { lexer with tokens := token :: lexer.tokens, count := lexer.count + 1 }

/-- The reader at another place. -/
def moveTo (lexer : Lexer) (cursor : Cursor) : Lexer := { lexer with cursor := cursor }

/-- The reader with a token put in behind the given number of tokens. -/
def insert (lexer : Lexer) (position : Nat) (token : Token) : Lexer :=
  let later := lexer.count - position
  { lexer with
    tokens := lexer.tokens.take later ++ token :: lexer.tokens.drop later
    count := lexer.count + 1 }

/-- The reader where keys may or may not start. -/
def allowKey (lexer : Lexer) (allowed : Bool) : Lexer := { lexer with keyAllowed := allowed }

/-- Give up the place of a possible key, unless a key has to stand there. -/
def dropPlace (place : Option KeyPlace) : Except Fault (Option KeyPlace) :=
  if place.any (·.required) then .error .unreadable else .ok none

/-- Give up the place of a possible key in the innermost collection. -/
def forgetKey (lexer : Lexer) : Except Fault Lexer := do
  let place ← dropPlace lexer.keyPlace
  return { lexer with keyPlace := place }

/-- Keep the place of a possible key. -/
def rememberKey (lexer : Lexer) : Except Fault Lexer :=
  if lexer.keyAllowed then do
    let cleared ← lexer.forgetKey
    let cursor := lexer.cursor
    let required := !lexer.inFlow && lexer.indent == (cursor.column : Int)
    return { cleared with
      keyPlace := some ⟨lexer.count, required, cursor.left, cursor.line, cursor.column⟩ }
  else .ok lexer

/-- Give up a place from which no key can reach the current place. -/
def expirePlace (cursor : Cursor) (place : Option KeyPlace) : Except Fault (Option KeyPlace) :=
  if place.any fun kept => kept.line != cursor.line || 1024 < kept.left - cursor.left then
    dropPlace place
  else .ok place

/-- Give up all places from which no key can reach the current place. -/
def expireKeys (lexer : Lexer) : Except Fault Lexer := do
  let place ← expirePlace lexer.cursor lexer.keyPlace
  let outer ← lexer.outerPlaces.mapM (expirePlace lexer.cursor)
  return { lexer with keyPlace := place, outerPlaces := outer }

/-- Open a block if the column lies behind the indentation; the flag tells whether one was
opened. -/
def indentTo (lexer : Lexer) (column : Nat) : Lexer × Bool :=
  if lexer.indent < (column : Int) then
    ({ lexer with indent := column, outerIndents := lexer.indent :: lexer.outerIndents }, true)
  else (lexer, false)

/-- Close the blocks whose indentation lies behind a column; the blocks around are given. -/
def closeBlocks (column : Int) (lexer : Lexer) : List Int → Lexer
  | [] => lexer
  | outer :: others =>
    if column < lexer.indent then
      let closed := { lexer.push .blockEnd with indent := outer, outerIndents := others }
      closeBlocks column closed others
    else lexer

/-- Close the blocks that end before a column.  Flow collections take no notice of columns. -/
def unindent (lexer : Lexer) (column : Int) : Lexer :=
  if lexer.inFlow then lexer else closeBlocks column lexer lexer.outerIndents

/-! ## Reading single tokens -/

/-- Pass over gaps, comments and line ends.  Behind a line end a key may start.  The count bounds
the steps. -/
def skipToToken : Nat → Lexer → Lexer
  | 0, lexer => lexer
  | count + 1, lexer =>
    let behind := lexer.cursor.skipComment
    match behind.lineEnd? with
    | some (_, following) =>
      skipToToken count
        { lexer with cursor := following, keyAllowed := lexer.keyAllowed || !lexer.inFlow }
    | none => lexer.moveTo behind

/-- Read a directive or a document mark, which ends all blocks. -/
def readDocumentToken (lexer : Lexer) (token : Token) (behind : Cursor) : Except Fault Lexer := do
  let closed ← (lexer.unindent (-1)).forgetKey
  return ((closed.push token).allowKey false).moveTo behind

/-- Read the opening sign of a flow collection, which may be the start of a key. -/
def openFlow (lexer : Lexer) (token : Token) : Except Fault Lexer := do
  let kept ← lexer.rememberKey
  return { (kept.push token) with
    cursor := lexer.cursor.next, keyAllowed := true, keyPlace := none
    outerPlaces := kept.keyPlace :: kept.outerPlaces }

/-- Read the closing sign of a flow collection. -/
def closeFlow (lexer : Lexer) (token : Token) : Except Fault Lexer := do
  let cleared ← lexer.forgetKey
  match cleared.outerPlaces with
  | [] => throw .unreadable
  | place :: others =>
    return { (cleared.push token) with
      cursor := lexer.cursor.next, keyAllowed := false, keyPlace := place, outerPlaces := others }

/-- Read the comma of a flow collection. -/
def readFlowEntry (lexer : Lexer) : Except Fault Lexer := do
  let cleared ← lexer.forgetKey
  return ((cleared.push .flowEntry).allowKey true).moveTo lexer.cursor.next

/-- Open a block of the given kind at the current column, where a key may start. -/
def openBlock (lexer : Lexer) (opening : Token) : Except Fault Lexer :=
  if lexer.inFlow then .ok lexer
  else if !lexer.keyAllowed then .error .unreadable
  else
    let (indented, opened) := lexer.indentTo lexer.cursor.column
    .ok (if opened then indented.push opening else indented)

/-- Read the hyphen of a sequence. -/
def readBlockEntry (lexer : Lexer) : Except Fault Lexer := do
  let opened ← lexer.openBlock .blockSequenceStart
  let cleared ← opened.forgetKey
  return ((cleared.push .blockEntry).allowKey true).moveTo lexer.cursor.next

/-- Read the question mark of a key. -/
def readKey (lexer : Lexer) : Except Fault Lexer := do
  let opened ← lexer.openBlock .blockMappingStart
  let cleared ← opened.forgetKey
  return ((cleared.push .key).allowKey (!lexer.inFlow)).moveTo lexer.cursor.next

/-- Read the colon of a value.  If the place of a possible key was kept, its tokens are put in
there; otherwise the value has no key before it on this line. -/
def readValue (lexer : Lexer) : Except Fault Lexer := do
  let keyed ← match lexer.keyPlace with
    | some place =>
      let announced := { lexer.insert place.position .key with keyPlace := none }
      let (indented, opened) :=
        if lexer.inFlow then (announced, false) else announced.indentTo place.column
      let complete :=
        if opened then indented.insert place.position .blockMappingStart else indented
      pure (complete.allowKey false)
    | none => do
      let opened ← lexer.openBlock .blockMappingStart
      pure (opened.allowKey (!lexer.inFlow))
  return (keyed.push .value).moveTo lexer.cursor.next

/-- Keep a token that may be a key. -/
def pushNode (lexer : Lexer) (token : Token) (behind : Cursor) : Except Fault Lexer := do
  let kept ← lexer.rememberKey
  return ((kept.push token).allowKey false).moveTo behind

/-- Read a block scalar at its indicator. -/
def readBlockScalar (lexer : Lexer) (folded : Bool) : Except Fault Lexer := do
  let cleared ← lexer.forgetKey
  let (content, behind) ← readBlock folded lexer.indent lexer.cursor.next
  return ((cleared.push (.scalar false content)).allowKey true).moveTo behind

/-- Read a quoted scalar at its opening quote. -/
def readQuotedScalar (lexer : Lexer) (quote : Char) : Except Fault Lexer := do
  let (content, behind) ← readQuoted quote lexer.cursor
  lexer.pushNode (.scalar false content) behind

/-- Read a plain scalar.  If it ran into another line, a key may start behind it. -/
def readPlainScalar (lexer : Lexer) : Except Fault Lexer := do
  let plain := readPlain lexer.inFlow lexer.indent lexer.cursor
  let pushed ← lexer.pushNode (.scalar true plain.text) plain.behind
  return pushed.allowKey plain.lineEnded

/-- The signs that no plain scalar starts with. -/
def isIndicator (c : Char) : Bool :=
  ['-', '?', ':', ',', '[', ']', '\x7b', '\x7d', '#', '&', '*', '!', '|', '>', '\x27', '\x22', '%',
    '@', '\x60'].contains c

/-- Whether a plain scalar starts with a character, given what follows it. -/
def startsPlain (inFlow : Bool) (c : Char) (following : Option Char) : Bool :=
  !(isGap c || isLineEnd c || isIndicator c)
    || (!endsWord following && (c == '-' || (!inFlow && (c == '?' || c == ':'))))

/-- Read the token that starts with a character. -/
def readToken (lexer : Lexer) (c : Char) : Except Fault Lexer :=
  let cursor := lexer.cursor
  let following := cursor.peekNext
  let flush := cursor.column == 0
  if c == '%' && flush then do
    let (token, behind) ← readDirective cursor
    lexer.readDocumentToken token behind
  else if c == '-' && flush && cursor.atDocumentMark then
    lexer.readDocumentToken .documentStart (cursor.advance 3)
  else if c == '.' && flush && cursor.atDocumentMark then
    lexer.readDocumentToken .documentEnd (cursor.advance 3)
  else if c == '[' then lexer.openFlow .flowSequenceStart
  else if c == '\x7b' then lexer.openFlow .flowMappingStart
  else if c == ']' then lexer.closeFlow .flowSequenceEnd
  else if c == '\x7d' then lexer.closeFlow .flowMappingEnd
  else if c == ',' then lexer.readFlowEntry
  else if c == '-' && endsWord following then lexer.readBlockEntry
  else if c == '?' && (lexer.inFlow || endsWord following) then lexer.readKey
  else if c == ':' && (lexer.inFlow || endsWord following) then lexer.readValue
  else if c == '*' then do
    let (name, behind) ← readAnchor cursor.next
    lexer.pushNode (.alias name) behind
  else if c == '&' then do
    let (name, behind) ← readAnchor cursor.next
    lexer.pushNode (.anchor name) behind
  else if c == '!' then do
    let (token, behind) ← readTag cursor
    lexer.pushNode token behind
  else if (c == '|' || c == '>') && !lexer.inFlow then lexer.readBlockScalar (c == '>')
  else if c == '\x27' || c == '\x22' then lexer.readQuotedScalar c
  else if startsPlain lexer.inFlow c following then lexer.readPlainScalar
  else .error .unreadable

/-- Read on to the next sign or scalar, or to the end of the text, where all blocks end. -/
def readNext (lexer : Lexer) : Except Fault Lexer := do
  let skipped := skipToToken (lexer.cursor.left + 1) lexer
  let current ← skipped.expireKeys
  let aligned := current.unindent current.cursor.column
  match aligned.cursor.peek with
  | none => do
    let closed ← (aligned.unindent (-1)).forgetKey
    return { closed with ended := true }
  | some c => aligned.readToken c

/-! ## Giving out tokens -/

/-- Whether a key may still start in front of the token with a number. -/
def awaitsKey (lexer : Lexer) (number : Nat) : Bool :=
  (lexer.keyPlace :: lexer.outerPlaces).any (·.any (·.position == number))

/-- The tokens from a number on. -/
def tokensFrom (lexer : Lexer) (number : Nat) : List Token :=
  (lexer.tokens.take (lexer.count - number)).reverse

/-- Give out the tokens from a number on.  Every step gives out a token or takes a character of
the text, and the count bounds the steps. -/
def giveOut : Nat → Nat → Lexer → List Token
  | 0, _, _ => [.broken .unreadable]
  | count + 1, number, lexer =>
    let readOn (current : Lexer) : List Token :=
      match current.readNext with
      | .ok following => giveOut count number following
      | .error fault => [.broken fault]
    if lexer.ended then lexer.tokensFrom number
    else if lexer.count ≤ number then readOn lexer
    else
      match lexer.expireKeys with
      | .error fault => [.broken fault]
      | .ok current =>
        match current.tokens[current.count - 1 - number]?, current.awaitsKey number with
        | some token, false => token :: giveOut count (number + 1) current
        | _, _ => readOn current

end Lexer

/-- The tokens of a text.  A character of the text gives at most a few tokens. -/
def Token.ofText (text : List Char) : List Token :=
  if text.all isAllowed then Lexer.giveOut (8 * (text.length + 4)) 0 (Lexer.start text)
  else [.broken .unreadable]

end FieldRules.Yaml
