import FieldRules.Text.Blank
import FieldRules.Text.LowerCase

/-!
# Settings

Two switches steer the operations on a whole schema: whether properties outside
every group are listed as groups of their own, and whether the rules that were
dropped are noted.  A switch is set by a word in any case; a word that is not
known leaves the switch as it is by default.
-/

set_option autoImplicit false

namespace FieldRules

/-- The settings. -/
structure Settings where
  includeSingletons : Bool
  noteDropped : Bool
  deriving DecidableEq, Repr

namespace Settings

/-- The words that turn a switch on. -/
def onWords : List String := ["1", "true", "yes", "on"]

/-- The words that turn a switch off. -/
def offWords : List String := ["0", "false", "no", "off"]

/-- The position of a switch that is given by a word, or by its default. -/
def switch (word : Option String) (default : Bool) : Bool :=
  match word with
  | none => default
  | some raw =>
    let known := String.ofList (Text.lower (Text.trim raw.toList))
    if onWords.contains known then true
    else if offWords.contains known then false
    else default

/-- The settings that two words give: singletons are left out and dropped rules are noted by
default. -/
def ofWords (singletons dropped : Option String) : Settings :=
  ⟨switch singletons false, switch dropped true⟩

end Settings

end FieldRules
