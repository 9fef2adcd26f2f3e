import FieldRules.Proofs.Schema.Declaring
import FieldRules.Proofs.Text.Trimming
import FieldRules.Schema.Document

/-!
# Schemas that documents describe

Every mapping describes a schema, unless something that has to be shown cannot be
written.  Each entry of its `properties` declares a property, whatever the shape
of its key and of its declaration (`Schema.Describes`).  An entry whose key has
the same plain form as an earlier one takes over the place of that entry, but the
notices of both are given (`Schema.DeclaresAll`).

A schema is read in one pass over the declarations: what one of them adds is said
by `Schema.declaration_of_shown`, and what all of them add by
`Schema.declareAll_of_shown`.  The schema that comes of it is also the one that
is made of the described properties under their names, so the check that every
property stands under its own key never refuses a document.

The key, the type, the format and the title of a declaration are written in this
order, and the first fault ends the reading (`Schema.shownFault?`); a number in an
unknown type may be too long.
-/

set_option autoImplicit false

namespace FieldRules

/-! ## Attempts in steps -/

namespace Attempt

variable {α β : Type} {attempt : Attempt α} {notices : List Notice}

theorem bind_of_ok {value : α} (whole : attempt = ⟨notices, .ok value⟩)
    (next : α → Attempt β) :
    (attempt >>= next) = ⟨notices ++ (next value).notices, (next value).result⟩ := by
  subst whole
  rfl

theorem bind_of_error {refusal : Refusal} (whole : attempt.result = .error refusal)
    (next : α → Attempt β) : (attempt >>= next).result = .error refusal := by
  change (attempt.andThen next).result = _
  rw [andThen, whole]

end Attempt

/-! ## Names of types, and trimmed forms -/

theorem DataType.ofName?_eq_some_iff {name : String} {type : DataType} :
    ofName? name = some type ↔ name = type.name :=
  ⟨fun found => (name_of_ofName? found).symm, fun same => same ▸ ofName?_name type⟩

/-- A value names a type when it is the text of its name. -/
theorem DataType.ofValue?_eq_some_iff {value : Value} {type : DataType} :
    ofValue? value = some type ↔ value = .text type.name := by
  cases value with
  | text name => simp [ofValue?, ofName?_eq_some_iff]
  | _ => simp [ofValue?]

/-- A trimmed text is empty when nothing but blanks was there. -/
theorem Text.trimmed_eq_empty_iff {content : String} :
    trimmed content = "" ↔ allBlank content.toList = true := by
  rw [trimmed, String.ofList_eq_empty_iff]
  constructor
  · intro empty
    obtain ⟨front, tail, shape, frontBlank, tailBlank⟩ := trim_split content.toList
    rw [shape, empty, allBlank_iff]
    rw [allBlank_iff] at frontBlank tailBlank
    intro c member
    simp only [List.append_nil, List.mem_append] at member
    rcases member with inFront | inTail
    · exact frontBlank c inFront
    · exact tailBlank c inTail
  · intro blank
    have dropped : trimStart (content.toList ++ []) = [] := trimStart_append blank
    rw [List.append_nil] at dropped
    rw [trim, dropped]
    rfl

namespace Value

/-- The plain form of a value without the blanks around it, which is absent if the value is null
or its form is blank. -/
structure Shortens (value : Value) (found : Option String) : Prop where
  present : ∀ content, found = some content ↔
    value ≠ .null ∧ content = Text.trimmed value.display ∧ content ≠ ""
  absent : found = none ↔ value = .null ∨ Text.allBlank value.display.toList = true

theorem map_or_other (value : Value) :
    (∃ entries, value = .map entries) ∨ ∀ entries, value ≠ .map entries := by
  cases value with
  | map entries => exact .inl ⟨entries, rfl⟩
  | _ => exact .inr nofun

theorem shortens_trimmedDisplay? (value : Value) : value.Shortens value.trimmedDisplay? := by
  cases value with
  | null => exact ⟨by simp [trimmedDisplay?], by simp [trimmedDisplay?]⟩
  | _ =>
    constructor
    · intro content
      grind [trimmedDisplay?]
    · rw [← Text.trimmed_eq_empty_iff]
      grind [trimmedDisplay?]

end Value

/-! ## Single declarations -/

namespace Schema

/-- A value that is given for a type, but names none. -/
def isUnsupported : Value → Bool
  | .null => false
  | given => (DataType.ofValue? given).isNone

theorem isUnsupported_of_present {value : Value} (present : value ≠ .null) :
    isUnsupported value = (DataType.ofValue? value).isNone := by
  cases value with
  | null => exact absurd rfl present
  | _ => rfl

theorem isUnsupported_iff {value : Value} :
    isUnsupported value = true ↔ value ≠ .null ∧ ∀ type : DataType, value ≠ .text type.name := by
  by_cases null : value = .null
  · simp [null, isUnsupported]
  · rw [isUnsupported_of_present null, Option.isNone_iff_eq_none, Option.eq_none_iff_forall_ne_some]
    simp only [ne_eq, DataType.ofValue?_eq_some_iff, null, not_false_eq_true, true_and]

/-- Whether an entry declares a property with a type that is not supported. -/
def declaresUnsupported (entry : Value × Value) : Bool := isUnsupported (entry.2.field "type")

/-- The property that an entry declares. -/
def described (entry : Value × Value) : Property where
  key := entry.1.display
  type := DataType.ofValue? (entry.2.field "type")
  format := (entry.2.field "format").trimmedDisplay?
  title := (entry.2.field "title").trimmedDisplay?

/-- The notice about the type of an entry. -/
def typeNotice (entry : Value × Value) : Notice := .typeUnsupported entry.1 (entry.2.field "type")

/-- The fault that a declared type is refused with: a value that names no type is written, but only
its depth counts. -/
def typeFault? (value : Value) : Option DisplayFault :=
  value.displayFault?.filter fun fault => fault = .tooDeep

/-- The first fault that is met in what is shown of an entry: its key, its type, its format and its
title. -/
def entryFault? (entry : Value × Value) : Option DisplayFault :=
  entry.1.displayFault?.or ((typeFault? (entry.2.field "type")).or
    ((entry.2.field "format").displayFault?.or (entry.2.field "title").displayFault?))

theorem requireWritable_of_writable {value : Value} (writable : value.displayFault? = none) :
    requireWritable value = ⟨[], .ok ()⟩ := by
  rw [requireWritable, writable]
  rfl

theorem requireWritable_of_fault {value : Value} {fault : DisplayFault}
    (unwritable : value.displayFault? = some fault) :
    (requireWritable value).result = .error (.ofDisplay fault) := by
  rw [requireWritable, unwritable]
  rfl

theorem typeFault?_eq_none_iff {value : Value} :
    typeFault? value = none ↔ value.displayFault? ≠ some .tooDeep := by
  rw [typeFault?]
  cases value.displayFault? with
  | none => simp
  | some fault => cases fault <;> simp

theorem typeFault?_eq_some_iff {value : Value} {fault : DisplayFault} :
    typeFault? value = some fault ↔ fault = .tooDeep ∧ value.displayFault? = some .tooDeep := by
  rw [typeFault?, Option.filter_eq_some_iff]
  constructor
  · rintro ⟨met, deep⟩
    obtain rfl : fault = .tooDeep := by simpa using deep
    exact ⟨rfl, met⟩
  · rintro ⟨rfl, met⟩
    exact ⟨met, by simp⟩

theorem declaredType_of_present (key : Value) {value : Value} (present : value ≠ .null) :
    declaredType key value =
      match DataType.ofValue? value with
      | some type => pure (some type)
      | none => do
        requireShallow value
        Attempt.note (.typeUnsupported key value)
        return none := by
  cases value with
  | null => exact absurd rfl present
  | _ => rfl

theorem declaredType_of_shown (key : Value) {value : Value} (shown : typeFault? value = none) :
    declaredType key value =
      ⟨if isUnsupported value then [.typeUnsupported key value] else [],
        .ok (DataType.ofValue? value)⟩ := by
  by_cases null : value = .null
  · subst null
    rfl
  · rw [declaredType_of_present key null, isUnsupported_of_present null]
    cases DataType.ofValue? value with
    | some type => rfl
    | none =>
      have shallow : requireShallow value = ⟨[], .ok ()⟩ := by
        rw [requireShallow, if_neg (typeFault?_eq_none_iff.mp shown)]
        rfl
      exact Attempt.bind_of_ok shallow _

theorem declaredType_of_fault (key : Value) {value : Value} {fault : DisplayFault}
    (hidden : typeFault? value = some fault) :
    (declaredType key value).result = .error (.ofDisplay fault) := by
  obtain ⟨rfl, deep⟩ := typeFault?_eq_some_iff.mp hidden
  have present : value ≠ .null := by
    rintro rfl
    exact nomatch deep
  have unnamed : DataType.ofValue? value = none := by
    rw [Option.eq_none_iff_forall_ne_some]
    intro type named
    rw [DataType.ofValue?_eq_some_iff.mp named, Value.displayFault?_text] at deep
    exact nomatch deep
  rw [declaredType_of_present key present, unnamed]
  refine Attempt.bind_of_error ?_ _
  rw [requireShallow, if_pos deep]
  rfl

theorem declaredText_of_writable {value : Value} (writable : value.displayFault? = none) :
    declaredText value = ⟨[], .ok value.trimmedDisplay?⟩ := by
  rw [declaredText, Attempt.bind_of_ok (requireWritable_of_writable writable)]
  rfl

theorem declaredText_of_fault {value : Value} {fault : DisplayFault}
    (unwritable : value.displayFault? = some fault) :
    (declaredText value).result = .error (.ofDisplay fault) :=
  Attempt.bind_of_error (requireWritable_of_fault unwritable) _

/-- What an entry adds if no fault is met in it: its property, and a notice if its type is not
supported. -/
theorem declaration_of_shown {entry : Value × Value} (shown : entryFault? entry = none) :
    declaration entry.1 entry.2 =
      ⟨if declaresUnsupported entry then [typeNotice entry] else [], .ok (described entry)⟩ := by
  simp only [entryFault?, Option.or_eq_none_iff] at shown
  obtain ⟨key, type, format, title⟩ := shown
  rw [declaration, Attempt.bind_of_ok (requireWritable_of_writable key),
    Attempt.bind_of_ok (declaredType_of_shown entry.1 type),
    Attempt.bind_of_ok (declaredText_of_writable format),
    Attempt.bind_of_ok (declaredText_of_writable title)]
  simp only [pure, Attempt.succeed, List.nil_append, List.append_nil]
  rfl

/-- An entry is refused for the first fault that is met in it. -/
theorem declaration_of_fault {entry : Value × Value} {fault : DisplayFault}
    (hidden : entryFault? entry = some fault) :
    (declaration entry.1 entry.2).result = .error (.ofDisplay fault) := by
  simp only [entryFault?, Option.or_eq_some_iff] at hidden
  unfold declaration
  rcases hidden with key | ⟨key, type | ⟨type, format | ⟨format, title⟩⟩⟩
  · exact Attempt.bind_of_error (requireWritable_of_fault key) _
  · rw [Attempt.bind_of_ok (requireWritable_of_writable key)]
    exact Attempt.bind_of_error (declaredType_of_fault entry.1 type) _
  · rw [Attempt.bind_of_ok (requireWritable_of_writable key),
      Attempt.bind_of_ok (declaredType_of_shown entry.1 type)]
    exact Attempt.bind_of_error (declaredText_of_fault format) _
  · rw [Attempt.bind_of_ok (requireWritable_of_writable key),
      Attempt.bind_of_ok (declaredType_of_shown entry.1 type),
      Attempt.bind_of_ok (declaredText_of_writable format)]
    exact Attempt.bind_of_error (declaredText_of_fault title) _

/-! ## All declarations -/

/-- Declarations are read one after another: the properties are declared in order, and each
declaration with a type that is not supported gives its notice. -/
theorem declareAll_of_shown {declarations : List (Value × Value)}
    (shown : declarations.findSome? entryFault? = none) (properties : Properties) :
    declareAll properties declarations =
      ⟨(declarations.filter declaresUnsupported).map typeNotice,
        .ok ((declarations.map described).foldl Properties.declare properties)⟩ := by
  induction declarations generalizing properties with
  | nil => rfl
  | cons entry rest ih =>
    rw [List.findSome?_eq_none_iff, List.forall_mem_cons, ← List.findSome?_eq_none_iff] at shown
    rw [declareAll, Attempt.bind_of_ok (declaration_of_shown shown.1), ih shown.2]
    cases unsupported : declaresUnsupported entry with
    | true => simp [unsupported]
    | false => simp [unsupported]

/-- Declarations are refused for the first fault that is met in them. -/
theorem declareAll_of_fault {declarations : List (Value × Value)} {fault : DisplayFault}
    (hidden : declarations.findSome? entryFault? = some fault) (properties : Properties) :
    (declareAll properties declarations).result = .error (.ofDisplay fault) := by
  induction declarations generalizing properties with
  | nil => exact nomatch hidden
  | cons entry rest ih =>
    rw [declareAll]
    cases met : entryFault? entry with
    | some first =>
      rw [List.findSome?_cons_of_isSome (by simp [met]), met] at hidden
      obtain rfl := Option.some.inj hidden
      exact Attempt.bind_of_error (declaration_of_fault met) _
    | none =>
      rw [List.findSome?_cons_of_isNone (by simp [met])] at hidden
      rw [Attempt.bind_of_ok (declaration_of_shown met)]
      exact ih hidden _

theorem readProperties_map {declarations : List (Value × Value)}
    (shown : declarations.findSome? entryFault? = none) :
    readProperties (.map declarations) =
      ⟨(declarations.filter declaresUnsupported).map typeNotice,
        .ok (Properties.ofList (declarations.map described))⟩ := by
  cases declarations with
  | nil => rfl
  | cons first rest => exact declareAll_of_shown shown .empty

theorem readProperties_of_absent {value : Value} (absent : value.isTruthy = false) :
    readProperties value = ⟨[], .ok .empty⟩ := by
  unfold readProperties
  rw [if_neg (by simp [absent])]
  rfl

theorem readProperties_of_other {value : Value} (present : value.isTruthy = true)
    (other : ∀ declarations, value ≠ .map declarations) :
    readProperties value = ⟨[.propertiesIgnored value.kindName], .ok .empty⟩ := by
  unfold readProperties
  rw [if_pos present]
  cases value with
  | map declarations => exact absurd rfl (other declarations)
  | _ => rfl

/-! ## Extensions -/

/-- Whether an entry of a document is an extension: its key is a text that starts with `x-`. -/
def isExtensionEntry (entry : Value × Value) : Bool :=
  entry.1.asText?.any fun name => ['x', '-'].isPrefixOf name.toList

/-- An extension as an entry of a document. -/
def extensionAsEntry (extension : String × Value) : Value × Value :=
  (.text extension.1, extension.2)

theorem isExtensionName_eq (name : String) :
    isExtensionName name = ['x', '-'].isPrefixOf name.toList := by
  rw [isExtensionName]
  split
  · next rest shape => simp [shape, List.isPrefixOf]
  · next other =>
    symm
    rw [Bool.eq_false_iff]
    intro opens
    obtain ⟨rest, shape⟩ := List.isPrefixOf_iff_prefix.mp opens
    exact other rest shape.symm

theorem extensionEntry?_text (name : String) (value : Value) :
    extensionEntry? (.text name, value) =
      if isExtensionEntry (.text name, value) then some (name, value) else none := by
  have same : isExtensionEntry (.text name, value) = isExtensionName name :=
    (isExtensionName_eq name).symm
  rw [same]
  rfl

theorem extensionEntry?_other {entry : Value × Value} (other : ∀ name, entry.1 ≠ .text name) :
    extensionEntry? entry = none ∧ isExtensionEntry entry = false := by
  obtain ⟨key, value⟩ := entry
  cases key with
  | text name => exact absurd rfl (other name)
  | _ => exact ⟨rfl, rfl⟩

/-- The extensions are the entries that are extensions, as they are. -/
theorem map_extensionAsEntry (entries : List (Value × Value)) :
    (entries.filterMap extensionEntry?).map extensionAsEntry = entries.filter isExtensionEntry := by
  rw [List.map_filterMap, ← List.filterMap_eq_filter]
  refine List.filterMap_congr fun entry _ => ?_
  by_cases text : ∃ name, entry.1 = .text name
  · obtain ⟨key, value⟩ := entry
    obtain ⟨name, rfl⟩ := text
    rw [extensionEntry?_text]
    by_cases extension : isExtensionEntry (.text name, value) = true
    · simp [Option.guard, extension, extensionAsEntry]
    · simp [Option.guard, extension]
  · obtain ⟨nothing, notExtension⟩ := extensionEntry?_other fun name same => text ⟨name, same⟩
    simp [Option.guard, nothing, notExtension]

/-- Extensions that are handed over as a mapping are read as they are. -/
theorem readExtensions_asEntries (extensions : List (String × Value)) :
    SchemaFields.readExtensions (some (.map (extensions.map extensionAsEntry))) =
      .ok extensions := by
  have errors (error? : Value × Value → Option FieldError)
      (texts : ∀ extension, error? (extensionAsEntry extension) = none) :
      (extensions.map extensionAsEntry).filterMap error? = [] := by
    rw [List.filterMap_map, List.filterMap_eq_nil_iff]
    exact fun extension _ => texts extension
  have read : (extensions.map extensionAsEntry).filterMap (fun entry =>
      entry.1.asText?.map fun name => (name, entry.2)) = extensions := by
    rw [List.filterMap_map]
    exact List.filterMap_some
  rw [SchemaFields.readExtensions, errors _ fun _ => rfl, read]
  rfl

/-! ## What a document describes -/

/-- What a property says of the entry that declares it. -/
structure Describes (entry : Value × Value) (property : Property) : Prop where
  /-- The key is the plain form of the key of the entry. -/
  key : property.key = entry.1.display
  /-- The type is set when the declared type is the name of one. -/
  type : ∀ type : DataType, property.type = some type ↔ entry.2.field "type" = .text type.name
  /-- The format is the trimmed form of the declared one. -/
  format : (entry.2.field "format").Shortens property.format
  /-- The title is the trimmed form of the declared one. -/
  title : (entry.2.field "title").Shortens property.title
  /-- A declaration that is no mapping declares nothing but the key. -/
  bare : (∀ declared, entry.2 ≠ .map declared) → property = ⟨entry.1.display, none, none, none⟩

/-- A warning that an entry declares a type which is not supported. -/
structure NotesType (entry : Value × Value) (notice : Notice) : Prop where
  unsupported : entry.2.field "type" ≠ .null ∧
    ∀ type : DataType, entry.2.field "type" ≠ .text type.name
  level : notice.level = .warning
  channel : notice.channel = .schema
  /-- The wording shows the type, if that can be written. -/
  message : (entry.2.field "type").isWritable = true →
    notice.message = "property '" ++ entry.1.display ++ "' has unsupported type "
      ++ (entry.2.field "type").quoted ++ "; treating as untyped"

/-- What comes of the entries of a mapping that declare properties. -/
structure DeclaresAll (declarations : List (Value × Value)) (schema : Schema)
    (notices : List Notice) : Prop where
  /-- The keys are the plain forms of the declared keys, in order of first occurrence. -/
  keys : ListsOnce (declarations.map fun entry => entry.1.display) schema.keys fun _ => True
  /-- A key has the property of the last declaration with its form. -/
  last : ∀ before entry behind, declarations = before ++ entry :: behind →
    (∀ later ∈ behind, later.1.display ≠ entry.1.display) →
    ∃ property, schema.property? entry.1.display = some property ∧ Describes entry property
  /-- Each declaration with an unsupported type has one warning, and there are no others. -/
  noted : List.Forall₂ NotesType (declarations.filter declaresUnsupported) notices
  /-- The schema is what the described properties make when they are handed over under the plain
  forms of the declared keys, together with the extensions; no check refuses them. -/
  accepted : ∃ named : List (String × PropertyFields),
    List.Forall₂ (fun entry fields => fields.1 = entry.1.display ∧
      ∃ property, Describes entry property ∧ fields.2 = property.toFields) declarations named ∧
    SchemaFields.toSchema ⟨named, some (.map (schema.extensions.map extensionAsEntry))⟩ =
      .ok schema

/-- What comes of the entries of a document. -/
structure Reflects (entries : List (Value × Value)) (schema : Schema)
    (notices : List Notice) : Prop where
  /-- A mapping under `properties` declares what its entries declare. -/
  declared : ∀ declarations, (Value.map entries).field "properties" = .map declarations →
    DeclaresAll declarations schema notices
  /-- A value that counts as absent declares nothing, without a notice. -/
  absent : ((Value.map entries).field "properties").isTruthy = false →
    schema.keys = [] ∧ notices = []
  /-- Any other value declares nothing, with one warning. -/
  ignored : ((Value.map entries).field "properties").isTruthy = true →
    (∀ declarations, (Value.map entries).field "properties" ≠ .map declarations) →
    schema.keys = [] ∧ ∃ notice, notices = [notice] ∧ notice.level = .warning ∧
      notice.channel = .schema ∧ notice.message = "ignoring non-mapping 'properties' ("
        ++ ((Value.map entries).field "properties").kindName ++ ")"
  /-- The extensions are the entries whose keys are texts that start with `x-`, as they are. -/
  extensions : schema.extensions.map extensionAsEntry = entries.filter isExtensionEntry

theorem describes_described (entry : Value × Value) : Describes entry (described entry) where
  key := rfl
  type _ := DataType.ofValue?_eq_some_iff
  format := Value.shortens_trimmedDisplay? _
  title := Value.shortens_trimmedDisplay? _
  bare other := by
    obtain ⟨key, declaration⟩ := entry
    cases declaration with
    | map declared => exact absurd rfl (other declared)
    | _ => rfl

theorem notesType_typeNotice {entry : Value × Value} (unsupported : declaresUnsupported entry) :
    NotesType entry (typeNotice entry) :=
  ⟨isUnsupported_iff.mp unsupported, rfl, rfl, fun _ => rfl⟩

theorem declaresAll_described (declarations : List (Value × Value))
    (extensions : List (String × Value)) :
    DeclaresAll declarations ⟨Properties.ofList (declarations.map described), extensions⟩
      ((declarations.filter declaresUnsupported).map typeNotice) where
  keys := by
    have displayed : (declarations.map described).map Property.key =
        declarations.map fun entry => entry.1.display := List.map_map
    have listed := listsOnce_filter (declarations.map fun entry => entry.1.display) fun _ => true
    rw [List.filter_true] at listed
    rw [keys, Properties.keys_ofList, displayed]
    exact ⟨by simpa using listed.members, listed.nodup, listed.ordered⟩
  last before entry behind split later := by
    refine ⟨described entry, ?_, describes_described entry⟩
    subst split
    rw [List.map_append, List.map_cons]
    apply Properties.find?_ofList_of_last
    intro property member
    obtain ⟨other, inBehind, rfl⟩ := List.mem_map.mp member
    exact later other inBehind
  noted := by
    rw [List.forall₂_map_right_iff, List.forall₂_same]
    intro entry member
    exact notesType_typeNotice (List.mem_filter.mp member).2
  accepted := by
    refine ⟨_, ?_, SchemaFields.toSchema_named (readExtensions_asEntries extensions)⟩
    simp only [SchemaFields.byKey, List.map_map, List.forall₂_map_right_iff, List.forall₂_same]
    intro entry _
    exact ⟨rfl, described entry, describes_described entry, rfl⟩

/-! ## Reading a document -/

/-- The first fault that is met in what the declarations of a document show. -/
def shownFault? (document : Value) : Option DisplayFault :=
  match document.field "properties" with
  | .map declarations => declarations.findSome? entryFault?
  | _ => none

theorem shownFault?_of_map {document : Value} {declarations : List (Value × Value)}
    (here : document.field "properties" = .map declarations) :
    shownFault? document = declarations.findSome? entryFault? := by
  rw [shownFault?, here]

/-- A fault is met in the declarations of a document. -/
theorem exists_of_shownFault? {document : Value} {fault : DisplayFault}
    (met : shownFault? document = some fault) :
    ∃ declarations, document.field "properties" = .map declarations ∧
      declarations.findSome? entryFault? = some fault := by
  unfold shownFault? at met
  split at met
  · next declarations here => exact ⟨declarations, here, met⟩
  · exact nomatch met

theorem ofDocument_of_read {entries : List (Value × Value)} {notices : List Notice}
    {properties : Properties}
    (read : readProperties ((Value.map entries).field "properties") = ⟨notices, .ok properties⟩) :
    ofDocument (.map entries) =
      ⟨notices, .ok ⟨properties, entries.filterMap extensionEntry?⟩⟩ := by
  have opened : ofDocument (.map entries) =
      (readProperties ((Value.map entries).field "properties") >>= fun properties =>
        pure ⟨properties, entries.filterMap extensionEntry?⟩) := rfl
  rw [opened, Attempt.bind_of_ok read]
  simp only [pure, Attempt.succeed, List.append_nil]

/-- A document describes a schema if no fault is met in its declarations. -/
theorem exists_schema_of_shown {entries : List (Value × Value)}
    (shown : shownFault? (.map entries) = none) :
    ∃ schema, (ofDocument (.map entries)).result = .ok schema ∧
      Reflects entries schema (ofDocument (.map entries)).notices := by
  have extensions := map_extensionAsEntry entries
  rcases ((Value.map entries).field "properties").map_or_other with ⟨declarations, here⟩ | other
  · have declares := declaresAll_described declarations (entries.filterMap extensionEntry?)
    rw [shownFault?_of_map here] at shown
    have read := readProperties_map shown
    rw [← here] at read
    rw [ofDocument_of_read read]
    refine ⟨_, rfl, ?_, ?_, ?_, extensions⟩
    · intro other same
      obtain rfl := Value.map.inj (here.symm.trans same)
      exact declares
    · intro absent
      rw [here, Value.isTruthy, Bool.not_eq_false', List.isEmpty_iff] at absent
      subst absent
      exact ⟨rfl, rfl⟩
    · intro _ other
      exact absurd here (other declarations)
  · cases present : ((Value.map entries).field "properties").isTruthy with
    | false =>
      rw [ofDocument_of_read (readProperties_of_absent present)]
      refine ⟨_, rfl, fun declarations here => absurd here (other declarations), ?_, ?_, extensions⟩
      · exact fun _ => ⟨rfl, rfl⟩
      · exact fun truthy => absurd truthy (by simp [present])
    | true =>
      rw [ofDocument_of_read (readProperties_of_other present other)]
      refine ⟨_, rfl, fun declarations here => absurd here (other declarations), ?_, ?_, extensions⟩
      · exact fun absent => absurd absent (by simp [present])
      · exact fun _ _ => ⟨rfl, _, rfl, rfl, rfl, rfl⟩

/-- A document is refused for the first fault that is met in its declarations. -/
theorem ofDocument_of_fault {entries : List (Value × Value)} {fault : DisplayFault}
    (hidden : shownFault? (.map entries) = some fault) :
    (ofDocument (.map entries)).result = .error (.ofDisplay fault) := by
  obtain ⟨declarations, here, first⟩ := exists_of_shownFault? hidden
  have refused : (readProperties (.map declarations)).result = .error (.ofDisplay fault) := by
    cases declarations with
    | nil => exact nomatch first
    | cons entry rest => exact declareAll_of_fault first .empty
  exact Attempt.bind_of_error (by rw [here, refused]) _

end Schema

end FieldRules
