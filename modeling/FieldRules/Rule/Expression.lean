import FieldRules.Rule.Kind
import FieldRules.Text.Blank

/-!
# Rule expressions

The written form of a rule, recognised from its text.  A requirement reads

    IF key==literal THEN key==literal;

where each literal, with the `==` before it, may be left out.  A list of keys
reads `OnlyOne(key, key);` or `Group(key, key);`.  Blanks around the whole text
do not matter.

A literal is arbitrary text, so a requirement can often be read in more than one
way.  The first literal ends at the first place where the rest can be read to
the end; the second literal is everything up to the closing semicolon without
the blanks before it.  Literals are kept as they are written here, since their
meaning depends on the type of the property.
-/

set_option autoImplicit false

namespace FieldRules

/-! ## Recognised expressions -/

/-- One side of a requirement: a key, and the text of a literal if one follows. -/
structure Side where
  key : String
  literal : Option String
  deriving DecidableEq, Repr

/-- What is wrong with a list of keys: no semicolon at its end, no parentheses around the keys, or
a key without a character. -/
inductive ListFault where
  | terminator
  | parentheses
  | emptyKey
  deriving DecidableEq, Repr

/-- What a text was recognised as. -/
inductive Expression where
  | requires (prerequisite dependant : Side)
  | keys (kind : ListKind) (keys : List String)
  | malformedRequires
  | malformedKeys (kind : ListKind) (fault : ListFault)
  | unknownKeyword
  deriving DecidableEq, Repr

namespace Expression

/-- The kind that an expression announces. -/
def kind : Expression → Kind
  | .requires _ _ | .malformedRequires => .requires
  | .keys kind _ | .malformedKeys kind _ => kind.toKind
  | .unknownKeyword => .invalid

/-! ## Reading pieces -/

/-- The rest of a text behind a word that it starts with. -/
def after? : (word s : List Char) → Option (List Char)
  | [], s => some s
  | _ :: _, [] => none
  | w :: word, c :: s => if w == c then after? word s else none

/-- The rest of a text behind the blanks that it starts with, of which there has to be one. -/
def afterBlanks? : List Char → Option (List Char)
  | [] => none
  | c :: s => if Text.isBlank c then some (Text.trimStart s) else none

/-- The characters of a key in a requirement. -/
def isKeyChar (c : Char) : Bool := !Text.isBlank c && c != '=' && c != ';'

/-- The key at the front of a text and the rest behind it. -/
def key? (s : List Char) : Option (List Char × List Char) :=
  match s.takeWhile isKeyChar with
  | [] => none
  | c :: key => some (c :: key, s.dropWhile isKeyChar)

/-- The word that opens a requirement. -/
def ifWord : List Char := ['I', 'F']

/-- The word between the two sides of a requirement. -/
def thenWord : List Char := ['T', 'H', 'E', 'N']

/-- The sign between a key and a literal. -/
def equalsSign : List Char := ['=', '=']

/-- The words that open a list of keys. -/
def listWord : ListKind → List Char
  | .onlyOne => ['O', 'n', 'l', 'y', 'O', 'n', 'e']
  | .group => ['G', 'r', 'o', 'u', 'p']

/-! ## Reading requirements -/

/-- One side of a requirement as characters. -/
abbrev SideChars := List Char × Option (List Char)

/-- The literal that fills a text up to its closing semicolon and the blanks before it. -/
def closingLiteral? (s : List Char) : Option (List Char) :=
  if s.getLast? == some ';' then some (Text.trimEnd s.dropLast) else none

/-- Read what follows the key of the dependant side. -/
def closing? (s : List Char) : Option (Option (List Char)) :=
  match after? equalsSign s with
  | some literal => (closingLiteral? literal).map some
  | none => if Text.trimStart s == [';'] then some none else none

/-- Read blanks, the word between the sides, blanks, and the dependant side to the end. -/
def consequent? (s : List Char) : Option SideChars := do
  let opening ← afterBlanks? s
  let behindWord ← after? thenWord opening
  let side ← afterBlanks? behindWord
  let (key, rest) ← key? side
  let literal ← closing? rest
  return (key, literal)

/-- The shortest literal in front of a readable consequent, and that consequent. -/
def splitLiteral? : List Char → Option (List Char × SideChars)
  | [] => none
  | c :: s =>
    match consequent? (c :: s) with
    | some dependant => some ([], dependant)
    | none => (splitLiteral? s).map fun (literal, dependant) => (c :: literal, dependant)

/-- Read a requirement behind its opening word. -/
def sides? (s : List Char) : Option (SideChars × SideChars) := do
  let opening ← afterBlanks? s
  let (key, rest) ← key? opening
  match after? equalsSign rest with
  | some behindSign =>
    let (literal, dependant) ← splitLiteral? behindSign
    return ((key, some literal), dependant)
  | none =>
    let dependant ← consequent? rest
    return ((key, none), dependant)

/-- A side with its texts as strings. -/
def side (chars : SideChars) : Side := ⟨String.ofList chars.1, chars.2.map String.ofList⟩

/-- Recognise a requirement behind its opening word. -/
def readRequires (s : List Char) : Expression :=
  match sides? s with
  | some (prerequisite, dependant) => .requires (side prerequisite) (side dependant)
  | none => .malformedRequires

/-! ## Reading lists of keys -/

/-- What stands between an opening and a closing parenthesis at the two ends of a text. -/
def insideParentheses? (s : List Char) : Option (List Char) :=
  match s with
  | '(' :: rest => if rest.getLast? == some ')' then some rest.dropLast else none
  | _ => none

/-- The pieces of a text between its commas, each trimmed. -/
def listedKeys (s : List Char) : List (List Char) := (s.splitOn ',').map Text.trim

/-- Recognise a list of keys behind its opening word. -/
def readKeys (kind : ListKind) (s : List Char) : Expression :=
  if s.getLast? == some ';' then
    match insideParentheses? (Text.trim s.dropLast) with
    | some inside =>
      let keys := listedKeys inside
      if keys.any (·.isEmpty) then .malformedKeys kind .emptyKey
      else .keys kind (keys.map String.ofList)
    | none => .malformedKeys kind .parentheses
  else .malformedKeys kind .terminator

/-! ## Recognising a text -/

/-- Recognise a text without blanks around it. -/
def ofTrimmed (s : List Char) : Expression :=
  match after? ifWord s with
  | some rest => readRequires rest
  | none =>
    match after? (listWord .onlyOne) s with
    | some rest => readKeys .onlyOne rest
    | none =>
      match after? (listWord .group) s with
      | some rest => readKeys .group rest
      | none => .unknownKeyword

/-- Recognise a text. -/
def ofText (text : String) : Expression := ofTrimmed (Text.trim text.toList)

/-! ## Small laws -/

/-- A word is found at the front of a text exactly when the text is the word and the rest. -/
theorem after?_eq_some_iff {word s rest : List Char} :
    after? word s = some rest ↔ s = word ++ rest := by
  induction word generalizing s with
  | nil => simp [after?, eq_comm]
  | cons w word ih =>
    cases s with
    | nil => simp [after?]
    | cons c s =>
      by_cases equal : w = c
      · subst equal
        simp [after?, ih]
      · have other : ¬ c = w := fun same => equal same.symm
        simp [after?, equal, other]

end Expression

end FieldRules
