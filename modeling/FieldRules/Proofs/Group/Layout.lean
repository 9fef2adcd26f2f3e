import FieldRules.Proofs.Group.Registration
import FieldRules.Group.Assembly
import Mathlib.Data.List.Pairwise

/-!
# The layout of groups

The walk over the declared properties.  A property that has no place yet places
the first group that lists it, or itself alone (`placementAt`).  So every property
gets a place (`covers_layoutFrom`), and every entry is placed at a property that no
entry before it lists (`exists_lead`).  The walk reads nothing of a group but its
keys (`layoutFrom_map`).  This holds of any groups.

If the groups share no key, the walk is also said as a relation (`Laid`).  When a
group is placed, none of its keys has a place, since a group has all of its keys
placed or none (`IsClosed`).  From the relation follows that the entries share no
key, and that they stand in the order of their earliest declared keys.
-/

set_option autoImplicit false

namespace FieldRules

variable {γ : Type} [Keyed γ] {groups : List γ}

/-! ## The walk -/

/-- The keys of a placement. -/
def Placement.keys : Placement γ → List String
  | .group listed => Keyed.keys listed
  | .alone property => [property.key]

/-- What is placed at a property without a place: the first group that lists it, or the property
alone. -/
def placementAt (groups : List γ) (property : Property) : Placement γ :=
  match ownerOf? groups property.key with
  | some owner => .group owner
  | none => .alone property

theorem placementAt_cases (groups : List γ) (property : Property) :
    (∃ owner ∈ groups, property.key ∈ Keyed.keys owner ∧
      placementAt groups property = .group owner) ∨
    ((∀ group ∈ groups, property.key ∉ Keyed.keys group) ∧
      placementAt groups property = .alone property) := by
  unfold placementAt
  cases found : ownerOf? groups property.key with
  | some owner =>
    have owned : property.key ∈ Keyed.keys owner := by simpa using List.find?_some found
    exact .inl ⟨owner, List.mem_of_find?_eq_some found, owned, rfl⟩
  | none => exact .inr ⟨by simpa [ownerOf?] using found, rfl⟩

theorem key_mem_placementAt (groups : List γ) (property : Property) :
    property.key ∈ (placementAt groups property).keys := by
  rcases placementAt_cases groups property with ⟨owner, -, owned, placed⟩ | ⟨-, placed⟩
  · rw [placed]
    exact owned
  · rw [placed]
    exact List.mem_cons_self

/-- One step of the walk. -/
theorem layoutFrom_cons (groups : List γ) (placed : List String) (property : Property)
    (rest : List Property) :
    layoutFrom groups placed (property :: rest) =
      if property.key ∈ placed then layoutFrom groups placed rest
      else placementAt groups property ::
        layoutFrom groups ((placementAt groups property).keys ++ placed) rest := by
  rw [layoutFrom, placementAt]
  simp only [List.contains_iff_mem]
  cases ownerOf? groups property.key <;> rfl

/-- Every property that had no place has one. -/
theorem covers_layoutFrom (groups : List γ) (placed : List String) (properties : List Property) :
    ∀ property ∈ properties, property.key ∈ placed ∨
      ∃ entry ∈ layoutFrom groups placed properties, property.key ∈ entry.keys := by
  induction properties generalizing placed with
  | nil => exact List.forall_mem_nil _
  | cons property rest ih =>
    rw [layoutFrom_cons]
    split
    · next hasPlace => exact List.forall_mem_cons.mpr ⟨.inl hasPlace, ih placed⟩
    · refine List.forall_mem_cons.mpr
        ⟨.inr ⟨_, List.mem_cons_self, key_mem_placementAt groups property⟩, ?_⟩
      intro other member
      rcases ih _ other member with before | ⟨entry, inLayout, listed⟩
      · rcases List.mem_append.mp before with here | before
        · exact .inr ⟨_, List.mem_cons_self, here⟩
        · exact .inl before
      · exact .inr ⟨entry, List.mem_cons_of_mem _ inLayout, listed⟩

/-- Every entry is placed at a property that neither had a place nor is in an entry before. -/
theorem exists_lead {placed : List String} {properties : List Property}
    {front back : List (Placement γ)} {entry : Placement γ}
    (split : layoutFrom groups placed properties = front ++ entry :: back) :
    ∃ property ∈ properties, entry = placementAt groups property ∧ property.key ∉ placed ∧
      ∀ other ∈ front, property.key ∉ other.keys := by
  induction properties generalizing placed front with
  | nil => simp [layoutFrom] at split
  | cons property rest ih =>
    rw [layoutFrom_cons] at split
    split at split
    · obtain ⟨lead, member, here⟩ := ih split
      exact ⟨lead, List.mem_cons_of_mem _ member, here⟩
    · next noPlace =>
      cases front with
      | nil =>
        obtain ⟨rfl, -⟩ := List.cons.inj split
        exact ⟨property, List.mem_cons_self, rfl, noPlace, List.forall_mem_nil _⟩
      | cons first front =>
        obtain ⟨rfl, behind⟩ := List.cons.inj split
        obtain ⟨lead, member, same, fresh, later⟩ := ih behind
        rw [List.mem_append, not_or] at fresh
        exact ⟨lead, List.mem_cons_of_mem _ member, same, fresh.2,
          List.forall_mem_cons.mpr ⟨fresh.1, later⟩⟩

theorem exists_property_of_mem_layoutFrom {placed : List String} {properties : List Property}
    {entry : Placement γ} (member : entry ∈ layoutFrom groups placed properties) :
    ∃ property ∈ properties, entry = placementAt groups property := by
  obtain ⟨front, back, split⟩ := List.append_of_mem member
  obtain ⟨property, inList, same, -⟩ := exists_lead split
  exact ⟨property, inList, same⟩

theorem mem_of_group_mem_layoutFrom {placed : List String} {properties : List Property}
    {group : γ} (member : .group group ∈ layoutFrom groups placed properties) :
    group ∈ groups := by
  obtain ⟨property, -, same⟩ := exists_property_of_mem_layoutFrom member
  rcases placementAt_cases groups property with ⟨owner, inGroups, -, here⟩ | ⟨-, here⟩
  · obtain rfl := Placement.group.inj (same.trans here)
    exact inGroups
  · exact absurd (same.trans here) (by simp)

theorem free_of_alone_mem_layoutFrom {placed : List String} {properties : List Property}
    {property : Property} (member : .alone property ∈ layoutFrom groups placed properties) :
    property ∈ properties ∧ ∀ group ∈ groups, property.key ∉ Keyed.keys group := by
  obtain ⟨other, inList, same⟩ := exists_property_of_mem_layoutFrom member
  rcases placementAt_cases groups other with ⟨owner, -, -, here⟩ | ⟨free, here⟩
  · exact absurd (same.trans here) (by simp)
  · obtain rfl := Placement.alone.inj (same.trans here)
    exact ⟨inList, free⟩

/-! ## The keys of the groups -/

section Renaming

variable {δ : Type} [Keyed δ] {f : γ → δ}

/-- A placement with its group changed. -/
def Placement.map (f : γ → δ) : Placement γ → Placement δ
  | .group listed => .group (f listed)
  | .alone property => .alone property

variable (sameKeys : ∀ group, Keyed.keys (f group) = Keyed.keys group)
include sameKeys

theorem placementAt_map (groups : List γ) (property : Property) :
    placementAt (groups.map f) property = (placementAt groups property).map f := by
  have tested : (fun group => (Keyed.keys group).contains property.key) ∘ f =
      fun group => (Keyed.keys group).contains property.key := by
    funext group
    exact congrArg (fun keys => keys.contains property.key) (sameKeys group)
  have found : ownerOf? (groups.map f) property.key = (ownerOf? groups property.key).map f := by
    rw [ownerOf?, List.find?_map, tested]
    rfl
  unfold placementAt
  rw [found]
  cases ownerOf? groups property.key <;> rfl

theorem Placement.keys_map (placement : Placement γ) :
    (placement.map f).keys = placement.keys := by
  cases placement with
  | group listed => exact sameKeys listed
  | alone property => rfl

/-- The walk sees the keys of the groups only. -/
theorem layoutFrom_map (groups : List γ) (placed : List String) (properties : List Property) :
    layoutFrom (groups.map f) placed properties =
      (layoutFrom groups placed properties).map (Placement.map f) := by
  induction properties generalizing placed with
  | nil => rfl
  | cons property rest ih =>
    rw [layoutFrom_cons, layoutFrom_cons]
    split
    · exact ih placed
    · rw [placementAt_map sameKeys, Placement.keys_map sameKeys, ih]
      rfl

theorem Schema.assemble_map (schema : Schema) (groups : List γ) (single : Property → Option γ) :
    schema.assemble (groups.map f) (fun property => (single property).map f) =
      (schema.assemble groups single).map f := by
  have shown : (Placement.show? fun property => (single property).map f) ∘ Placement.map f =
      Option.map f ∘ Placement.show? single := by
    funext placement
    cases placement <;> rfl
  rw [assemble, layout, layoutFrom_map sameKeys, List.filterMap_map, shown, assemble, layout,
    List.map_filterMap]
  rfl

end Renaming

/-! ## Groups that share no key -/

/-- No group has some of its keys among the placed ones and others not. -/
def IsClosed (groups : List γ) (placed : List String) : Prop :=
  ∀ group ∈ groups, ∀ key ∈ Keyed.keys group, key ∈ placed →
    ∀ other ∈ Keyed.keys group, other ∈ placed

/-- A layout of the properties that are left, given the keys that have a place. -/
inductive Laid (groups : List γ) : List String → List Property → List (Placement γ) → Prop where
  | done (placed : List String) : Laid groups placed [] []
  | skip {placed : List String} {property : Property} {rest : List Property}
      {layout : List (Placement γ)} (hasPlace : property.key ∈ placed)
      (behind : Laid groups placed rest layout) : Laid groups placed (property :: rest) layout
  | group {placed : List String} {property : Property} {rest : List Property}
      {layout : List (Placement γ)} {owner : γ} (member : owner ∈ groups)
      (owned : property.key ∈ Keyed.keys owner) (fresh : ∀ key ∈ Keyed.keys owner, key ∉ placed)
      (behind : Laid groups (Keyed.keys owner ++ placed) rest layout) :
      Laid groups placed (property :: rest) (.group owner :: layout)
  | alone {placed : List String} {property : Property} {rest : List Property}
      {layout : List (Placement γ)} (fresh : property.key ∉ placed)
      (free : ∀ group ∈ groups, property.key ∉ Keyed.keys group)
      (behind : Laid groups (property.key :: placed) rest layout) :
      Laid groups placed (property :: rest) (.alone property :: layout)

instance : Std.Symm (@KeyDisjoint γ _) := ⟨fun _ _ => KeyDisjoint.symm⟩

theorem eq_of_shared_key (disjoint : groups.Pairwise KeyDisjoint) {left right : γ}
    (leftMember : left ∈ groups) (rightMember : right ∈ groups) {key : String}
    (inLeft : key ∈ Keyed.keys left) (inRight : key ∈ Keyed.keys right) : left = right := by
  by_contra different
  exact disjoint.forall leftMember rightMember different key inLeft inRight

theorem isClosed_nil : IsClosed groups [] := by
  intro group _ key _ placed
  exact absurd placed List.not_mem_nil

/-- Placing a group keeps the other groups whole. -/
theorem IsClosed.group {placed : List String} (closed : IsClosed groups placed)
    (disjoint : groups.Pairwise KeyDisjoint) {owner : γ} (member : owner ∈ groups) :
    IsClosed groups (Keyed.keys owner ++ placed) := by
  intro group groupMember key inGroup keyPlaced other inSame
  rcases List.mem_append.mp keyPlaced with inOwner | before
  · obtain rfl := eq_of_shared_key disjoint groupMember member inGroup inOwner
    exact List.mem_append_left placed inSame
  · exact List.mem_append_right _ (closed group groupMember key inGroup before other inSame)

/-- Placing a property that no group lists keeps the groups whole. -/
theorem IsClosed.alone {placed : List String} (closed : IsClosed groups placed) {key : String}
    (free : ∀ group ∈ groups, key ∉ Keyed.keys group) : IsClosed groups (key :: placed) := by
  intro group member first inGroup firstPlaced other inSame
  rcases List.mem_cons.mp firstPlaced with rfl | before
  · exact absurd inGroup (free group member)
  · exact List.mem_cons_of_mem _ (closed group member first inGroup before other inSame)

/-- The walk computes a layout. -/
theorem laid_layoutFrom (disjoint : groups.Pairwise KeyDisjoint) (properties : List Property)
    {placed : List String} (closed : IsClosed groups placed) :
    Laid groups placed properties (layoutFrom groups placed properties) := by
  induction properties generalizing placed with
  | nil => exact .done placed
  | cons property rest ih =>
    rw [layoutFrom_cons]
    split
    · next hasPlace => exact .skip hasPlace (ih closed)
    · next noPlace =>
      rcases placementAt_cases groups property with ⟨owner, member, owned, here⟩ | ⟨free, here⟩
      · have fresh (key : String) (inOwner : key ∈ Keyed.keys owner) : key ∉ placed :=
          fun before => noPlace (closed owner member key inOwner before property.key owned)
        rw [here]
        exact .group member owned fresh (ih (closed.group disjoint member))
      · rw [here]
        exact .alone noPlace free (ih (closed.alone free))

/-! ## What a layout is -/

namespace Laid

variable {placed : List String} {properties : List Property} {layout : List (Placement γ)}

/-- No entry of a layout has a key that was placed before. -/
theorem fresh (laid : Laid groups placed properties layout) :
    ∀ entry ∈ layout, ∀ key ∈ entry.keys, key ∉ placed := by
  induction laid with
  | done => simp
  | skip _ _ ih => exact ih
  | group _ _ fresh _ ih =>
    refine List.forall_mem_cons.mpr ⟨fresh, fun entry member key listed before => ?_⟩
    exact ih entry member key listed (List.mem_append_right _ before)
  | alone fresh _ _ ih =>
    refine List.forall_mem_cons.mpr ⟨?_, fun entry member key listed before => ?_⟩
    · intro key listed
      rw [List.mem_singleton.mp listed]
      exact fresh
    · exact ih entry member key listed (List.mem_cons_of_mem _ before)

/-- No two entries of a layout share a key. -/
theorem exclusive (laid : Laid groups placed properties layout) :
    layout.Pairwise fun left right => ∀ key ∈ left.keys, key ∉ right.keys := by
  induction laid with
  | done => exact List.Pairwise.nil
  | skip _ _ ih => exact ih
  | group _ _ _ behind ih =>
    refine List.pairwise_cons.mpr ⟨fun entry member key inOwner inEntry => ?_, ih⟩
    exact behind.fresh entry member key inEntry (List.mem_append_left _ inOwner)
  | alone _ _ behind ih =>
    refine List.pairwise_cons.mpr ⟨fun entry member key isFirst inEntry => ?_, ih⟩
    rw [List.mem_singleton.mp isFirst] at inEntry
    exact behind.fresh entry member _ inEntry List.mem_cons_self

end Laid

/-! ## The order of a layout -/

/-- The earliest place of some keys in a list of declared keys. -/
def earliest (declared keys : List String) : Nat := declared.findIdx keys.contains

theorem findIdx_eq_length {before keys : List String} (none : ∀ key ∈ before, key ∉ keys) :
    before.findIdx keys.contains = before.length := by
  rw [List.findIdx_eq_length]
  intro key member
  simpa using none key member

theorem length_le_earliest {before keys : List String} (none : ∀ key ∈ before, key ∉ keys)
    (rest : List String) : before.length ≤ earliest (before ++ rest) keys := by
  rw [earliest, List.findIdx_append, findIdx_eq_length none, if_neg (Nat.lt_irrefl _)]
  exact Nat.le_add_left _ _

theorem earliest_eq_length {before keys : List String} (none : ∀ key ∈ before, key ∉ keys)
    {first : String} (listed : first ∈ keys) (rest : List String) :
    earliest (before ++ first :: rest) keys = before.length := by
  have found : keys.contains first = true := by simpa using listed
  rw [earliest, List.findIdx_append, findIdx_eq_length none, if_neg (Nat.lt_irrefl _),
    List.findIdx_cons, found]
  exact Nat.zero_add _

theorem earliest_le_of_subset {declared part keys : List String}
    (subset : ∀ key ∈ part, key ∈ keys) : earliest declared keys ≤ earliest declared part := by
  refine List.findIdx_le_findIdx fun key _ listed => ?_
  simpa using subset key (by simpa using listed)

/-- Some key of a list has the place of the whole list. -/
theorem exists_earliest {declared keys : List String} (met : ∃ key ∈ keys, key ∈ declared) :
    ∃ key ∈ keys, key ∈ declared ∧ earliest declared [key] ≤ earliest declared keys := by
  have inside : declared.findIdx keys.contains < declared.length := by
    obtain ⟨key, listed, inDeclared⟩ := met
    exact List.findIdx_lt_length_of_exists ⟨key, inDeclared, by simpa using listed⟩
  have listed : declared[declared.findIdx keys.contains] ∈ keys := by
    simpa using List.findIdx_getElem (w := inside)
  refine ⟨_, listed, List.getElem_mem inside, ?_⟩
  by_contra behind
  have before := List.not_of_lt_findIdx (Nat.lt_of_not_le behind)
  simp [earliest] at before

/-- An entry that is placed at a key comes before the entries that have neither this key nor an
earlier one. -/
theorem earliest_lt {before : List String} {first : String} {entry other : List String}
    (none : ∀ key ∈ before, key ∉ entry) (listed : first ∈ entry)
    (later : ∀ key ∈ before ++ [first], key ∉ other) (rest : List String) :
    earliest (before ++ first :: rest) entry < earliest (before ++ first :: rest) other := by
  have behind := length_le_earliest later rest
  rw [List.length_append, List.length_singleton, List.append_assoc, List.singleton_append] at behind
  rw [earliest_eq_length none listed]
  exact behind

/-- The entries of a layout stand in the order of their earliest declared keys. -/
theorem Laid.ordered {placed : List String} {properties : List Property}
    {layout : List (Placement γ)} (laid : Laid groups placed properties layout)
    {before : List String} (passed : ∀ key ∈ before, key ∈ placed) :
    layout.Pairwise fun left right =>
      earliest (before ++ properties.map Property.key) left.keys <
        earliest (before ++ properties.map Property.key) right.keys := by
  induction laid generalizing before with
  | done => exact List.Pairwise.nil
  | @skip placed property rest layout hasPlace _ ih =>
    have ordered := @ih (before ++ [property.key]) fun key member => by
      rcases List.mem_append.mp member with old | new
      · exact passed key old
      · rw [List.mem_singleton.mp new]
        exact hasPlace
    simpa using ordered
  | @group placed property rest layout owner _ owned fresh behind ih =>
    have now (key : String) (member : key ∈ before ++ [property.key]) :
        key ∈ Keyed.keys owner ++ placed := by
      rcases List.mem_append.mp member with old | new
      · exact List.mem_append_right _ (passed key old)
      · rw [List.mem_singleton.mp new]
        exact List.mem_append_left _ owned
    refine List.pairwise_cons.mpr ⟨fun other member => ?_, by simpa using ih now⟩
    refine earliest_lt (fun key old listed => fresh key listed (passed key old)) owned ?_ _
    exact fun key old listed => behind.fresh other member key listed (now key old)
  | @alone placed property rest layout fresh _ behind ih =>
    have now (key : String) (member : key ∈ before ++ [property.key]) :
        key ∈ property.key :: placed := by
      rcases List.mem_append.mp member with old | new
      · exact List.mem_cons_of_mem _ (passed key old)
      · exact List.mem_cons.mpr (.inl (List.mem_singleton.mp new))
    refine List.pairwise_cons.mpr ⟨fun other member => ?_, by simpa using ih now⟩
    refine earliest_lt (fun key old listed => ?_) List.mem_cons_self ?_ _
    · rw [List.mem_singleton.mp listed] at old
      exact fresh (passed _ old)
    · exact fun key old listed => behind.fresh other member key listed (now key old)

end FieldRules
