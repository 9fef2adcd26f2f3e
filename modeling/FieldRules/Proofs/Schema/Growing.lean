import FieldRules.Proofs.Schema.Declaring
import FieldRules.Proofs.Schema.WellFormed

/-!
# Schemas that grow

A schema grows when it declares more properties and keeps the type of each old
one (`Schema.Extends`).  The new properties may stand anywhere in the order, and
formats and titles may change.

A text that is accepted depends on the types of its own keys only, so it is
accepted in the larger schema with the same outcome.  A text that failed for an
undeclared key may now be accepted.  So the larger schema states all that the
smaller one states, text by text, and the old dependencies stand among the new
ones in their old order (`Traversal.filterMap_sublist_of_le`).

A text that failed may also be refused in the larger schema, when the new
property makes one of its literals an overlong integer.  The other way round
nothing is lost: where the requirements of the larger schema are returned, those
of the smaller one are returned too (`Schema.Extends.holdsOverlong`).
-/

set_option autoImplicit false

namespace FieldRules

/-! ## Larger schemas -/

namespace Schema

/-- A schema that declares every property of a smaller one, with the same type, and carries the
same extension values. -/
structure Extends (large small : Schema) : Prop where
  sameExtensions : ∀ name, large.extension name = small.extension name
  keeps : ∀ key property, small.property? key = some property →
    ∃ kept, large.property? key = some kept ∧ kept.type = property.type

variable {large small : Schema} {key : String}

/-- It is enough to find each property of the smaller schema under its own key. -/
theorem extends_of_forall (same : ∀ name, large.extension name = small.extension name)
    (found : ∀ property ∈ small.properties.toList,
      (large.property? property.key).map Property.type = some property.type) :
    large.Extends small where
  sameExtensions := same
  keeps key property declared := by
    obtain rfl := Properties.key_of_find? declared
    exact Option.map_eq_some_iff.mp (found property (List.mem_of_find?_eq_some declared))

namespace Extends

variable (extends_ : large.Extends small)

include extends_

theorem dependencyTexts : large.dependencyTexts = small.dependencyTexts := by
  rw [Schema.dependencyTexts, extends_.sameExtensions, Schema.dependencyTexts]

theorem declares (declared : small.declares key = true) : large.declares key = true := by
  obtain ⟨property, found⟩ := Option.isSome_iff_exists.mp declared
  obtain ⟨kept, foundAgain, -⟩ := extends_.keeps key property found
  rw [Schema.declares, foundAgain, Option.isSome_some]

/-- A key that the smaller schema declares keeps its type. -/
theorem typeOf (declared : small.declares key = true) : large.typeOf key = small.typeOf key := by
  obtain ⟨property, found⟩ := Option.isSome_iff_exists.mp declared
  obtain ⟨kept, foundAgain, sameType⟩ := extends_.keeps key property found
  rw [Schema.typeOf, foundAgain, Schema.typeOf, found]
  exact sameType

theorem hasType {type : DataType} (typed : small.hasType type key = true) :
    large.hasType type key = true := by
  rw [hasType_iff] at typed ⊢
  obtain ⟨property, found, isType⟩ := typed
  obtain ⟨kept, foundAgain, sameType⟩ := extends_.keeps key property found
  exact ⟨kept, foundAgain, sameType.trans isType⟩

variable {prerequisite dependant side : Side} {text : String}

theorem readSide (declared : small.declares side.key = true) :
    large.readSide side = small.readSide side := by
  rw [Schema.readSide, extends_.typeOf declared, Schema.readSide]

theorem relates (related : small.Relates prerequisite dependant) :
    large.Relates prerequisite dependant where
  prerequisiteDeclared := extends_.declares related.prerequisiteDeclared
  dependantDeclared := extends_.declares related.dependantDeclared
  different := related.different

/-! ## Texts that are accepted -/

/-- Two sides that are related in the smaller schema are read alike. -/
theorem read_of_relates (recognised : Expression.ofText text = .requires prerequisite dependant)
    (related : small.Relates prerequisite dependant) :
    Requires.read large text = Requires.read small text := by
  rw [Requires.read_of_relates recognised related,
    Requires.read_of_relates recognised (extends_.relates related),
    extends_.readSide related.prerequisiteDeclared, extends_.readSide related.dependantDeclared]

theorem read_requires {outcome : Outcome Requires} {rule : Requires}
    (read : Requires.read small text = .ok outcome) (accepted : outcome.result = .ok rule) :
    Requires.read large text = Requires.read small text := by
  obtain ⟨prerequisite, dependant, recognised, related, -⟩ :=
    Requires.exists_sides_of_read read accepted
  exact extends_.read_of_relates recognised related

theorem read_onlyOne {rule : OnlyOne} (accepted : (OnlyOne.read small text).result = .ok rule) :
    OnlyOne.read large text = OnlyOne.read small text := by
  obtain ⟨recognised, enough, declared⟩ := exists_list_of_onlyOne accepted
  rw [OnlyOne.read_of_declared recognised enough declared]
  apply OnlyOne.read_of_declared recognised enough
  exact fun key listed => extends_.declares (declared key listed)

theorem read_group {name : String} {group : Group}
    (accepted : (Group.read small name text).result = .ok group) :
    Group.read large name text = Group.read small name text := by
  obtain ⟨-, kind, recognised, enough, declared⟩ := exists_list_of_group accepted
  rw [Group.read_of_declared recognised enough declared]
  apply Group.read_of_declared recognised enough
  exact fun key listed => extends_.declares (declared key listed)

/-! ## What the listed texts state -/

theorem requirement? {rule : Requires} (stated : small.requirement? text = some rule) :
    large.requirement? text = some rule := by
  cases read : Requires.read small text with
  | error fault => exact absurd stated (by simp [Schema.requirement?, read, Except.toOption])
  | ok outcome =>
    have accepted : outcome.value? = some rule := by
      rw [Schema.requirement?, read] at stated
      exact stated
    rw [Schema.requirement?, extends_.read_requires read (Outcome.value?_eq_some_iff.mp accepted)]
    exact stated

theorem choice? {rule : OnlyOne} (stated : small.choice? text = some rule) :
    large.choice? text = some rule := by
  rw [Schema.choice?, extends_.read_onlyOne (Outcome.value?_eq_some_iff.mp stated)]
  exact stated

theorem choices_sublist : (small.dependencyTexts.filterMap small.choice?).Sublist
    (large.dependencyTexts.filterMap large.choice?) := by
  rw [extends_.dependencyTexts]
  exact Traversal.filterMap_sublist_of_le _ fun _ _ => extends_.choice?

/-- The choices of a type in the smaller schema are choices of the type in the larger one. -/
theorem filterByType_sublist (type : DataType) {few many : List OnlyOne} (part : few.Sublist many) :
    (small.filterByType type few).Sublist (large.filterByType type many) := by
  have ofType (rule : OnlyOne) (typed : rule.keys.all (small.hasType type) = true) :
      rule.keys.all (large.hasType type) = true := by
    rw [List.all_eq_true] at typed ⊢
    exact fun key listed => extends_.hasType (typed key listed)
  exact (part.filter _).trans (List.monotone_filter_right many ofType)

/-- A text with an overlong literal in the smaller schema has one in the larger one. -/
theorem holdsOverlong (overlong : small.HoldsOverlong text) : large.HoldsOverlong text := by
  obtain ⟨fault, refused⟩ := Requires.exists_error_iff.mpr overlong
  obtain ⟨prerequisite, dependant, recognised, related, -⟩ := overlong
  rw [← extends_.read_of_relates recognised related] at refused
  exact Requires.exists_error_iff.mp ⟨fault, refused⟩

end Extends

end Schema

/-! ## The operations -/

namespace Unchecked

/-- A text is read, and what it states is accepted. -/
def Accepts {α : Type} (attempt : Attempt (Outcome α)) : Prop :=
  ∃ outcome value, attempt.result = .ok outcome ∧ outcome.result = .ok value

/-- The operations on a larger schema give all that they give on a smaller one. -/
structure OnlyAdds (small large : Schema) (settings : Settings) : Prop where
  /-- A requirement that is accepted is accepted in the larger schema with the same outcome. -/
  requirement : ∀ text, Accepts (parseRequires (.schema small) text) →
    parseRequires (.schema large) text = parseRequires (.schema small) text
  /-- So is a choice. -/
  choice : ∀ text, Accepts (parseOnlyOne (.schema small) text) →
    parseOnlyOne (.schema large) text = parseOnlyOne (.schema small) text
  /-- So is a group, under its name. -/
  group : ∀ name text, Accepts (parseGroup (.schema small) name text) →
    parseGroup (.schema large) name text = parseGroup (.schema small) name text
  /-- Where the requirements of the larger schema are returned, those of the smaller one are
  returned and stand among them in order. -/
  requirements : ∀ many, (extractRequires (.schema large) settings).result = .ok many →
    ∃ few, (extractRequires (.schema small) settings).result = .ok few ∧ few.Sublist many
  /-- The choices of the smaller schema stand among those of the larger one in order. -/
  choices : ∃ few many, (extractOnlyOne (.schema small) settings).result = .ok few ∧
    (extractOnlyOne (.schema large) settings).result = .ok many ∧ few.Sublist many
  /-- So do the choices of each type. -/
  choicesOfType : ∀ type : DataType, ∃ few many,
    (extractOnlyOneByType (.schema small) settings (.text type.name)).result = .ok few ∧
    (extractOnlyOneByType (.schema large) settings (.text type.name)).result = .ok many ∧
    few.Sublist many

variable {small large : Schema} (extends_ : large.Extends small)

include extends_

theorem parseRequires_of_extends {text : Value}
    (accepted : Accepts (parseRequires (.schema small) text)) :
    parseRequires (.schema large) text = parseRequires (.schema small) text := by
  obtain ⟨outcome, rule, returned, success⟩ := accepted
  cases text with
  | text content =>
    have read := result_parseRequires_eq_ok_iff.mp returned
    have opened (schema : Schema) : parseRequires (.schema schema) (.text content) =
        Attempt.ofExcept .digits (Requires.read schema content) := rfl
    rw [opened, opened, extends_.read_requires read success]
  | _ => exact nomatch returned

theorem parseOnlyOne_of_extends {text : Value}
    (accepted : Accepts (parseOnlyOne (.schema small) text)) :
    parseOnlyOne (.schema large) text = parseOnlyOne (.schema small) text := by
  obtain ⟨outcome, rule, returned, success⟩ := accepted
  cases text with
  | text content =>
    obtain rfl := Except.ok.inj returned
    have opened (schema : Schema) : parseOnlyOne (.schema schema) (.text content) =
        pure (OnlyOne.read schema content) := rfl
    rw [opened, opened, extends_.read_onlyOne success]
  | _ => exact nomatch returned

theorem parseGroup_of_extends {name text : Value}
    (accepted : Accepts (parseGroup (.schema small) name text)) :
    parseGroup (.schema large) name text = parseGroup (.schema small) name text := by
  obtain ⟨outcome, group, returned, success⟩ := accepted
  cases name with
  | text name =>
    cases text with
    | text content =>
      obtain rfl := Except.ok.inj returned
      have opened (schema : Schema) : parseGroup (.schema schema) (.text name) (.text content) =
          pure (Group.read schema name content) := rfl
      rw [opened, opened, extends_.read_group success]
    | _ => exact nomatch returned
  | _ => exact nomatch returned

/-- The requirements of the smaller schema are returned where those of the larger one are. -/
theorem requirements_sublist {settings : Settings} {many : List Requires}
    (returned : (extractRequires (.schema large) settings).result = .ok many) :
    ∃ few, (extractRequires (.schema small) settings).result = .ok few ∧ few.Sublist many := by
  have short : ∀ text ∈ large.dependencyTexts, ¬ large.HoldsOverlong text := by
    by_contra overlong
    push Not at overlong
    obtain ⟨count, -, refused⟩ := result_extractRequires_of_overlong large settings overlong
    exact absurd (refused.symm.trans returned) (by simp)
  have shortToo : ∀ text ∈ small.dependencyTexts, ¬ small.HoldsOverlong text := by
    intro text member overlong
    rw [← extends_.dependencyTexts] at member
    exact short text member (extends_.holdsOverlong overlong)
  rw [result_extractRequires_of_short large settings short] at returned
  obtain rfl := Except.ok.inj returned
  refine ⟨_, result_extractRequires_of_short small settings shortToo, ?_⟩
  rw [extends_.dependencyTexts]
  exact Traversal.filterMap_sublist_of_le _ fun _ _ => extends_.requirement?

theorem choicesOfType_sublist (settings : Settings) (type : DataType) : ∃ few many,
    (extractOnlyOneByType (.schema small) settings (.text type.name)).result = .ok few ∧
    (extractOnlyOneByType (.schema large) settings (.text type.name)).result = .ok many ∧
    few.Sublist many := by
  have returned (schema : Schema) :
      (extractOnlyOneByType (.schema schema) settings (.text type.name)).result =
        .ok (schema.filterByType type (schema.dependencyTexts.filterMap schema.choice?)) := by
    rw [result_extractOnlyOneByType, checkType_name]
    rfl
  refine ⟨_, _, returned small, returned large, ?_⟩
  exact extends_.filterByType_sublist type extends_.choices_sublist

/-- **A schema that grows only gains dependencies.** -/
theorem growing_only_adds (settings : Settings) : OnlyAdds small large settings where
  requirement _ := parseRequires_of_extends extends_
  choice _ := parseOnlyOne_of_extends extends_
  group _ _ := parseGroup_of_extends extends_
  requirements _ := requirements_sublist extends_
  choices := ⟨_, _, result_extractOnlyOne small settings, result_extractOnlyOne large settings,
    extends_.choices_sublist⟩
  choicesOfType := choicesOfType_sublist extends_ settings

omit extends_

/-- A key that is declared in the middle lets a choice be read between the old ones. -/
theorem new_choice_between_old :
    let texts := [(dependenciesExtension,
      Value.list [.text "OnlyOne(a,b);", .text "OnlyOne(a,new);", .text "OnlyOne(b,b);"])]
    let small : Schema := ⟨.ofList [⟨"a", some .string, none, none⟩,
      ⟨"b", some .string, none, none⟩], texts⟩
    let large : Schema := ⟨.ofList [⟨"b", some .string, none, some "B"⟩,
      ⟨"new", some .integer, none, none⟩, ⟨"a", some .string, none, none⟩], texts⟩
    large.Extends small ∧ OnlyAdds small large ⟨true, true⟩ ∧
      (extractOnlyOne (.schema small) ⟨true, true⟩).result =
        .ok [⟨["a", "b"]⟩, ⟨["b", "b"]⟩] ∧
      (extractOnlyOne (.schema large) ⟨true, true⟩).result =
        .ok [⟨["a", "b"]⟩, ⟨["a", "new"]⟩, ⟨["b", "b"]⟩] := by
  intro texts small large
  have grown : large.Extends small := Schema.extends_of_forall (fun _ => rfl) (by decide)
  exact ⟨grown, growing_only_adds grown _, by rfl, by rfl⟩

end Unchecked

end FieldRules
