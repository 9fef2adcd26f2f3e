import FieldRules.Value.Basic

/-!
# The order of a set

A set is shown in the order in which its members lie in a table of slots.  A
number is reduced modulo a prime and asks for the slot with the remainder of the
result by the size of the table.  If others are there already, it takes the
nearest free slot behind, and failing that the search goes on elsewhere.

Two numbers that are equal ask for the same slot, be they integers, booleans or
floating-point numbers.  Values of other kinds ask for no slot, and a set with such
a member keeps the order in which its members were given.
-/

set_option autoImplicit false

namespace FieldRules.Value

/-- The prime by which numbers are reduced. -/
def slotPrime : Nat := Nat.pow 2 61 - 1

/-- The remainder of a number by the prime, with the sign of the number; minus one is moved to
minus two. -/
def reduced (negative : Bool) (magnitude : Nat) : Int :=
  let remainder := withSign negative (magnitude % slotPrime)
  if remainder == -1 then -2 else remainder

/-- What a number is reduced to.  The units of a floating-point number are divided by their count
in one; modulo the prime this is a multiplication by `2 ^ 24`, since `2 ^ 61` is one there. -/
def reduced? : Value → Option Int
  | .float (.finite negative magnitude) =>
    some (reduced negative (Binary64.unitsOf magnitude % slotPrime * Nat.pow 2 24))
  | .float (.infinite negative) => some (reduced negative 314159)
  | other => other.toInt?.map fun number => reduced (number < 0) number.natAbs

/-- The number by which a value asks for a slot. -/
def slotNumber? (value : Value) : Option Nat :=
  (reduced? value).map fun number => (number % Int.pow 2 64).toNat

/-- The size of the table for a number of members: a power of two, and more than twice the number
unless there are less than five. -/
def tableSize (count : Nat) : Nat := if count < 5 then 8 else Nat.pow 2 (Nat.log2 (2 * count) + 1)

/-- The free slot nearest to a place, the place itself or one of the nine behind it.  Close to the
end of the table, only the place itself counts. -/
def freeSlot? (table : Array (Option Value)) (place : Nat) : Option Nat :=
  let reach := if place + 9 < table.size then 10 else 1
  ((List.range reach).map (place + ·)).find? fun slot => (table.getD slot none).isNone

/-- Put a member into the first free slot of a search.  Where no slot is free, the place moves on
by five times its number, and by the rest of the number that asks.  The count bounds the steps. -/
def put (member : Value) : Nat → Nat → Nat → Array (Option Value) → Array (Option Value)
  | 0, _, _, table => table
  | count + 1, rest, place, table =>
    match freeSlot? table place with
    | some slot => table.setIfInBounds slot (some member)
    | none => put member count (rest / 32) ((place * 5 + 1 + rest / 32) % table.size) table

/-- The members of a set in the order in which it is shown. -/
def arranged (members : List Value) : List Value :=
  match members.mapM slotNumber? with
  | none => members
  | some numbers =>
    let size := tableSize members.length
    let step (table : Array (Option Value)) (entry : Nat × Value) : Array (Option Value) :=
      put entry.2 (size + 16) entry.1 (entry.1 % size) table
    ((numbers.zip members).foldl step (Array.replicate size none)).toList.filterMap id

end FieldRules.Value
