import FieldRules.Proofs.Faults
import FieldRules.Yaml.Token

/-!
# Faults of tokens

What can go wrong when a text is cut into tokens.  Nearly everything that is no
token makes the text unreadable.  There are three exceptions
(`Fault.OfToken`): an escape with a code that no character has, one with a code
beyond all machine numbers, and a directive for a version whose number has too
many digits.

A fault is itself a token, the last one.  So the statement about a text is one
about its tokens: those that are broken are broken by one of these faults
(`Token.isSound_ofText`).  It is carried through the reader as an invariant of the
tokens so far (`Lexer.Sound`), one lemma for each step of the reader.
-/

set_option autoImplicit false

namespace FieldRules.Yaml

/-- The faults that come to light when a text is cut into tokens: a text of no form, an escape
that denotes no character, and a version with too many digits. -/
inductive Fault.OfToken : Fault → Prop
  | unreadable : OfToken .unreadable
  | codePoint : OfToken .codePoint
  | codePointOverflow : OfToken .codePointOverflow
  | version {count : Nat} (long : digitLimit < count) : OfToken (.digits (.tooLongToRead count))

/-- A token that is broken is broken by a fault of a token. -/
def Token.IsSound : Token → Prop
  | .broken fault => fault.OfToken
  | _ => True

/-- A step that reads a token. -/
abbrev ReadsToken (step : Except Fault (Token × Cursor)) : Prop :=
  Ends Fault.OfToken (fun read => read.1.IsSound) step

/-! ## Names, tags and directives -/

theorem readName_ends (cursor : Cursor) : RefusesOnly Fault.OfToken (readName cursor) :=
  Ends.ite (fun _ => .error .unreadable) fun _ => trivial

theorem readAnchor_ends (cursor : Cursor) : RefusesOnly Fault.OfToken (readAnchor cursor) := by
  refine (readName_ends cursor).bind fun read _ => ?_
  exact Ends.ite (fun _ => trivial) fun _ => .error .unreadable

theorem readTagText_ends (cursor : Cursor) : RefusesOnly Fault.OfToken (readTagText cursor) := by
  refine Ends.ite (fun _ => .error .unreadable) fun _ => ?_
  split
  · trivial
  · exact .error .unreadable

theorem readHandle_ends (cursor : Cursor) : RefusesOnly Fault.OfToken (readHandle cursor) := by
  refine Ends.ite (fun _ => .error .unreadable) fun _ => ?_
  refine Ends.ite (fun _ => trivial) fun _ => ?_
  exact Ends.ite (fun _ => trivial) fun _ => .error .unreadable

theorem readTag_ends (cursor : Cursor) : ReadsToken (readTag cursor) := by
  have finish (handle : Option String) (suffix : String) (behind : Cursor) :
      ReadsToken (if endsPart behind.peek then pure (.tag handle suffix, behind)
        else throw .unreadable) :=
    .ite (fun _ => trivial) fun _ => .error .unreadable
  unfold readTag
  simp only [pure_bind]
  refine Ends.ite (fun _ => ?verbatim) fun _ => Ends.ite (fun _ => ?alone) fun _ =>
    Ends.ite (fun _ => ?handle) fun _ => ?primary
  case verbatim =>
    refine (readTagText_ends _).bind fun read _ => ?_
    exact .ite (fun _ => finish none read.1 read.2.next) fun _ => .error_bind .unreadable _
  case alone => exact finish none "!" cursor.next
  case handle =>
    refine (readHandle_ends cursor).bind fun handle _ => ?_
    exact (readTagText_ends _).bind fun read _ => finish (some handle.1) read.1 read.2
  case primary => exact (readTagText_ends _).bind fun read _ => finish (some "!") read.1 read.2

theorem readVersionNumber_ends (cursor : Cursor) :
    RefusesOnly Fault.OfToken (readVersionNumber cursor) := by
  refine Ends.ite (fun _ => .error .unreadable) fun _ => ?_
  exact Ends.ite (fun long => .error (.version long)) fun _ => trivial

theorem readVersion_ends (cursor : Cursor) : ReadsToken (readVersion cursor) := by
  refine (readVersionNumber_ends _).bind fun major _ => ?_
  refine Ends.ite (fun _ => .error_bind .unreadable _) fun _ => ?_
  refine (readVersionNumber_ends _).bind fun minor _ => ?_
  exact Ends.ite (fun _ => trivial) fun _ => .error .unreadable

theorem readHandleDirective_ends (cursor : Cursor) : ReadsToken (readHandleDirective cursor) := by
  refine (readHandle_ends _).bind fun name _ => ?_
  refine Ends.ite (fun _ => .error_bind .unreadable _) fun _ => ?_
  refine (readTagText_ends _).bind fun replacement _ => ?_
  exact Ends.ite (fun _ => trivial) fun _ => .error .unreadable

theorem readDirective_ends (cursor : Cursor) : ReadsToken (readDirective cursor) := by
  refine (readName_ends _).bind fun name _ => ?_
  refine Ends.ite (fun _ => .error_bind .unreadable _) fun _ => ?_
  have finish (read : Token × Cursor) (sound : read.1.IsSound) : ReadsToken
      (match read with
        | (token, behind) =>
          if endsLine behind.skipComment.peek then
            pure (token, (behind.skipComment.lineEnd?.map Prod.snd).getD behind.skipComment)
          else throw .unreadable) :=
    Ends.ite (fun _ => sound) fun _ => .error .unreadable
  refine Ends.ite (fun _ => ?version) fun _ => Ends.ite (fun _ => ?handle) fun _ => ?other
  case version => exact (readVersion_ends _).bind finish
  case handle => exact (readHandleDirective_ends _).bind finish
  case other => exact finish (.otherDirective, name.2.skipLine) trivial

/-! ## Scalars -/

theorem readIndentation_ends (cursor : Cursor) :
    RefusesOnly Fault.OfToken (readIndentation cursor) := by
  unfold readIndentation
  split
  · trivial
  · refine .ite (fun _ => .error .unreadable) fun _ => ?_
    exact .ite (fun _ => trivial) fun _ => trivial

theorem readHeader_ends (cursor : Cursor) : RefusesOnly Fault.OfToken (readHeader cursor) := by
  refine (readIndentation_ends _).bind fun indentation _ => ?_
  refine Ends.ite (fun _ => .error_bind .unreadable _) fun _ => ?_
  exact Ends.ite (fun _ => .error_bind .unreadable _) fun _ => trivial

theorem readBlock_ends (folded : Bool) (outer : Int) (cursor : Cursor) :
    RefusesOnly Fault.OfToken (readBlock folded outer cursor) := by
  refine (readHeader_ends cursor).bind fun header _ => ?_
  exact Ends.ite (fun _ => trivial) fun _ => trivial

theorem charOfCode_ends (code : Nat) : RefusesOnly Fault.OfToken (charOfCode code) := by
  refine Ends.ite (fun _ => .error .codePointOverflow) fun _ => ?_
  refine Ends.ite (fun _ => .error .codePoint) fun _ => ?_
  exact Ends.ite (fun _ => trivial) fun _ => trivial

theorem quotedLineEnds_ends (count : Nat) (cursor : Cursor) :
    RefusesOnly Fault.OfToken (quotedLineEnds count cursor) := by
  induction count generalizing cursor with
  | zero => exact .error .unreadable
  | succ count ih =>
    refine Ends.ite (fun _ => .error .unreadable) fun _ => ?_
    dsimp only
    split
    · next ended following _ => exact (ih following).bind fun _ _ => trivial
    · trivial

theorem readEscape_ends (count : Nat) (cursor : Cursor) :
    RefusesOnly Fault.OfToken (readEscape count cursor) := by
  unfold readEscape
  split
  · exact .error .unreadable
  · split
    · trivial
    · split
      · split
        · exact (charOfCode_ends _).map fun _ _ => trivial
        · exact .error .unreadable
      · split
        · exact quotedLineEnds_ends count _
        · exact .error .unreadable

theorem readQuotedGap_ends (count : Nat) (cursor : Cursor) :
    RefusesOnly Fault.OfToken (readQuotedGap count cursor) := by
  unfold readQuotedGap
  dsimp only
  split
  · exact (quotedLineEnds_ends count _).bind fun _ _ => trivial
  · exact .ite (fun _ => .error .unreadable) fun _ => trivial

theorem readQuotedPiece_ends (quote : Char) (count : Nat) (cursor : Cursor) :
    RefusesOnly Fault.OfToken (readQuotedPiece quote count cursor) := by
  unfold readQuotedPiece
  split
  · exact .error .unreadable
  · refine .ite (fun _ => .ite (fun _ => trivial) fun _ => trivial) fun _ => ?_
    refine .ite (fun _ => (readEscape_ends count _).map fun _ _ => trivial) fun _ => ?_
    refine .ite (fun _ => (readQuotedGap_ends count _).map fun _ _ => trivial) fun _ => ?_
    trivial

theorem readQuotedFrom_ends (quote : Char) (count : Nat) (read : List Char) (cursor : Cursor) :
    RefusesOnly Fault.OfToken (readQuotedFrom quote count read cursor) := by
  induction count generalizing read cursor with
  | zero => exact .error .unreadable
  | succ count ih =>
    refine (readQuotedPiece_ends quote count cursor).bind fun piece _ => ?_
    cases piece with
    | none => trivial
    | some piece => exact ih _ _

/-! ## The reader of tokens -/

namespace Lexer

/-- All tokens so far are sound. -/
def Sound (lexer : Lexer) : Prop := ∀ token ∈ lexer.tokens, token.IsSound

/-- A step of the reader that reads sound tokens. -/
abbrev Reads (step : Except Fault Lexer) : Prop := Ends Fault.OfToken Sound step

variable {lexer : Lexer}

theorem Sound.push (sound : lexer.Sound) {token : Token} (isSound : token.IsSound) :
    (lexer.push token).Sound :=
  List.forall_mem_cons.mpr ⟨isSound, sound⟩

theorem Sound.insert (sound : lexer.Sound) (position : Nat) {token : Token}
    (isSound : token.IsSound) : (lexer.insert position token).Sound := by
  intro other member
  have split : other ∈ lexer.tokens.take (lexer.count - position) ++
      token :: lexer.tokens.drop (lexer.count - position) := member
  rcases List.mem_append.mp split with before | behind
  · exact sound other (List.mem_of_mem_take before)
  · rcases List.mem_cons.mp behind with rfl | later
    · exact isSound
    · exact sound other (List.mem_of_mem_drop later)

/-! ### Places of keys -/

theorem dropPlace_ends (place : Option KeyPlace) :
    RefusesOnly Fault.OfToken (dropPlace place) :=
  Ends.ite (fun _ => .error .unreadable) fun _ => trivial

theorem expirePlace_ends (cursor : Cursor) (place : Option KeyPlace) :
    RefusesOnly Fault.OfToken (expirePlace cursor place) :=
  Ends.ite (fun _ => dropPlace_ends place) fun _ => trivial

theorem Sound.forgetKey (sound : lexer.Sound) : Reads lexer.forgetKey :=
  (dropPlace_ends lexer.keyPlace).bind fun _ _ => sound

theorem Sound.rememberKey (sound : lexer.Sound) : Reads lexer.rememberKey :=
  Ends.ite (fun _ => sound.forgetKey.bind fun _ cleared => cleared) fun _ => sound

theorem Sound.expireKeys (sound : lexer.Sound) : Reads lexer.expireKeys := by
  refine (expirePlace_ends lexer.cursor lexer.keyPlace).bind fun place _ => ?_
  refine (Ends.mapM fun outer _ => expirePlace_ends lexer.cursor outer).bind fun outer _ => ?_
  exact sound

/-! ### Blocks -/

theorem Sound.indentTo (sound : lexer.Sound) (column : Nat) : (lexer.indentTo column).1.Sound := by
  unfold Lexer.indentTo
  split
  · exact sound
  · exact sound

theorem Sound.closeBlocks (sound : lexer.Sound) (column : Int) (outer : List Int) :
    (closeBlocks column lexer outer).Sound := by
  induction outer generalizing lexer with
  | nil => exact sound
  | cons first others ih =>
    unfold Lexer.closeBlocks
    split
    · exact ih (sound.push trivial)
    · exact sound

theorem Sound.unindent (sound : lexer.Sound) (column : Int) : (lexer.unindent column).Sound := by
  unfold Lexer.unindent
  split
  · exact sound
  · exact sound.closeBlocks column _

theorem Sound.skipToToken (sound : lexer.Sound) (count : Nat) :
    (skipToToken count lexer).Sound := by
  induction count generalizing lexer with
  | zero => exact sound
  | succ count ih =>
    unfold Lexer.skipToToken
    dsimp only
    split
    · exact ih sound
    · exact sound

theorem Sound.openBlock (sound : lexer.Sound) (opening : Token) (isSound : opening.IsSound) :
    Reads (lexer.openBlock opening) := by
  refine Ends.ite (fun _ => sound) fun _ => Ends.ite (fun _ => .error .unreadable) fun _ => ?_
  have indented := sound.indentTo lexer.cursor.column
  generalize lexer.indentTo lexer.cursor.column = opened at indented ⊢
  show Sound (if opened.2 then opened.1.push opening else opened.1)
  split
  · exact indented.push isSound
  · exact indented

/-! ### Single tokens -/

theorem Sound.readDocumentToken (sound : lexer.Sound) (token : Token) (isSound : token.IsSound)
    (behind : Cursor) : Reads (lexer.readDocumentToken token behind) :=
  (sound.unindent (-1)).forgetKey.bind fun _ closed => closed.push isSound

theorem Sound.openFlow (sound : lexer.Sound) {token : Token} (isSound : token.IsSound) :
    Reads (lexer.openFlow token) :=
  sound.rememberKey.bind fun _ kept => kept.push isSound

theorem Sound.closeFlow (sound : lexer.Sound) {token : Token} (isSound : token.IsSound) :
    Reads (lexer.closeFlow token) := by
  refine sound.forgetKey.bind fun cleared whole => ?_
  dsimp only
  split
  · exact .error .unreadable
  · exact whole.push isSound

theorem Sound.readFlowEntry (sound : lexer.Sound) : Reads lexer.readFlowEntry :=
  sound.forgetKey.bind fun _ cleared => cleared.push trivial

theorem Sound.readBlockEntry (sound : lexer.Sound) : Reads lexer.readBlockEntry := by
  refine (sound.openBlock .blockSequenceStart trivial).bind fun opened whole => ?_
  exact whole.forgetKey.bind fun _ cleared => cleared.push trivial

theorem Sound.readKey (sound : lexer.Sound) : Reads lexer.readKey := by
  refine (sound.openBlock .blockMappingStart trivial).bind fun opened whole => ?_
  exact whole.forgetKey.bind fun _ cleared => cleared.push trivial

theorem Sound.readValue (sound : lexer.Sound) : Reads lexer.readValue := by
  unfold Lexer.readValue
  dsimp only
  split
  · next place _ =>
    -- The tokens are put in at the place of the key, in front of those that came after it.
    let announced : Lexer := { lexer.insert place.position .key with keyPlace := none }
    have keyed : announced.Sound := sound.insert place.position trivial
    have indented : (if lexer.inFlow then (announced, false)
        else announced.indentTo place.column).1.Sound := by
      split
      · exact keyed
      · exact keyed.indentTo place.column
    generalize (if lexer.inFlow then _ else _ : Lexer × Bool) = opened at indented ⊢
    have complete : Sound (if opened.2 then
        opened.1.insert place.position .blockMappingStart else opened.1) := by
      split
      · exact indented.insert place.position trivial
      · exact indented
    exact complete.push trivial
  · refine (sound.openBlock .blockMappingStart trivial).bind fun opened whole => ?_
    exact whole.push trivial

theorem Sound.pushNode (sound : lexer.Sound) (token : Token) (isSound : token.IsSound)
    (behind : Cursor) : Reads (lexer.pushNode token behind) :=
  sound.rememberKey.bind fun _ kept => kept.push isSound

theorem Sound.readBlockScalar (sound : lexer.Sound) (folded : Bool) :
    Reads (lexer.readBlockScalar folded) := by
  refine sound.forgetKey.bind fun cleared whole => ?_
  exact (readBlock_ends folded lexer.indent lexer.cursor.next).bind fun _ _ => whole.push trivial

theorem Sound.readQuotedScalar (sound : lexer.Sound) (quote : Char) :
    Reads (lexer.readQuotedScalar quote) :=
  (readQuotedFrom_ends quote _ _ _).bind fun read _ =>
    sound.pushNode (.scalar false read.1) trivial read.2

theorem Sound.readPlainScalar (sound : lexer.Sound) : Reads lexer.readPlainScalar :=
  (sound.pushNode (.scalar true _) trivial _).bind fun _ pushed => pushed

theorem Sound.readToken (sound : lexer.Sound) (c : Char) : Reads (lexer.readToken c) := by
  refine Ends.ite (fun _ => ?directive) fun _ => ?_
  case directive =>
    exact (readDirective_ends _).bind fun read isSound =>
      sound.readDocumentToken read.1 isSound read.2
  refine .ite (fun _ => sound.readDocumentToken .documentStart trivial _) fun _ => ?_
  refine .ite (fun _ => sound.readDocumentToken .documentEnd trivial _) fun _ => ?_
  refine .ite (fun _ => sound.openFlow trivial) fun _ => ?_
  refine .ite (fun _ => sound.openFlow trivial) fun _ => ?_
  refine .ite (fun _ => sound.closeFlow trivial) fun _ => ?_
  refine .ite (fun _ => sound.closeFlow trivial) fun _ => ?_
  refine .ite (fun _ => sound.readFlowEntry) fun _ => ?_
  refine .ite (fun _ => sound.readBlockEntry) fun _ => ?_
  refine .ite (fun _ => sound.readKey) fun _ => ?_
  refine .ite (fun _ => sound.readValue) fun _ => ?_
  refine .ite (fun _ => (readAnchor_ends _).bind fun read _ =>
    sound.pushNode (.alias read.1) trivial read.2) fun _ => ?_
  refine .ite (fun _ => (readAnchor_ends _).bind fun read _ =>
    sound.pushNode (.anchor read.1) trivial read.2) fun _ => ?_
  refine .ite (fun _ => (readTag_ends _).bind fun read isSound =>
    sound.pushNode read.1 isSound read.2) fun _ => ?_
  refine .ite (fun _ => sound.readBlockScalar _) fun _ => ?_
  refine .ite (fun _ => sound.readQuotedScalar c) fun _ => ?_
  exact .ite (fun _ => sound.readPlainScalar) fun _ => .error .unreadable

theorem Sound.readNext (sound : lexer.Sound) : Reads lexer.readNext := by
  refine (sound.skipToToken _).expireKeys.bind fun current whole => ?_
  have aligned := whole.unindent current.cursor.column
  dsimp only
  split
  · exact (aligned.unindent (-1)).forgetKey.bind fun _ closed => closed
  · exact aligned.readToken _

/-! ### Giving out tokens -/

theorem Sound.giveOut (sound : lexer.Sound) (count number : Nat) :
    ∀ token ∈ giveOut count number lexer, token.IsSound := by
  induction count generalizing number lexer with
  | zero => exact List.forall_mem_singleton.mpr .unreadable
  | succ count ih =>
    -- What is given out of a reader that has to read on first.
    have readOn {current : Lexer} (whole : current.Sound) {given : List Token}
        (ok : ∀ following, current.readNext = .ok following →
          given = Lexer.giveOut count number following)
        (error : ∀ fault, current.readNext = .error fault → given = [.broken fault]) :
        ∀ token ∈ given, token.IsSound := by
      have ends := whole.readNext
      cases read : current.readNext with
      | error fault =>
        rw [error fault read]
        exact List.forall_mem_singleton.mpr (ends.known_of_error read)
      | ok following =>
        rw [ok following read]
        rw [read] at ends
        exact ih ends number
    unfold Lexer.giveOut
    dsimp only
    split
    · intro token member
      exact sound token (List.mem_of_mem_take (List.mem_reverse.mp member))
    · split
      · exact readOn sound (fun _ read => by rw [read]) fun _ read => by rw [read]
      · have ends := sound.expireKeys
        cases expired : lexer.expireKeys with
        | error fault => exact List.forall_mem_singleton.mpr (ends.known_of_error expired)
        | ok current =>
          rw [expired] at ends
          dsimp only
          split
          · next token found _ =>
            exact List.forall_mem_cons.mpr ⟨ends token (List.mem_of_getElem? found), ih ends _⟩
          · exact readOn ends (fun _ read => by rw [read]) fun _ read => by rw [read]

end Lexer

/-- The tokens of a text are sound. -/
theorem Token.isSound_ofText (text : List Char) : ∀ token ∈ ofText text, token.IsSound := by
  unfold ofText
  split
  · have sound : (Lexer.start text).Sound := by
      intro token member
      exact absurd member List.not_mem_nil
    exact sound.giveOut _ _
  · exact List.forall_mem_singleton.mpr .unreadable

end FieldRules.Yaml
