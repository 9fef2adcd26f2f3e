import FieldRules.Schema.Basic
import Mathlib.Data.List.Basic
import Mathlib.Data.List.Induction

/-!
# Declared and undeclared keys

The keys of a list that a schema does not declare are reported as they are
listed.  A list has none exactly when the schema declares all of its keys.

Keys that are picked out of a list are reported each once, in the order of their
first appearance (`ListsOnce`).
-/

set_option autoImplicit false

namespace FieldRules.Schema

theorem mem_firstOccurrences {keys : List String} {key : String} :
    key ∈ firstOccurrences keys ↔ key ∈ keys := by
  -- The keys found so far are kept, and every further key is among them or added.
  have behind (seen : List String) :
      key ∈ keys.foldl (fun seen next => if seen.contains next then seen else seen ++ [next]) seen ↔
        key ∈ seen ∨ key ∈ keys := by
    induction keys generalizing seen with
    | nil => simp
    | cons first keys ih =>
      rw [List.foldl_cons, ih]
      split
      · next known =>
        have old : first ∈ seen := by simpa using known
        grind
      · simp [or_assoc]
  simpa [firstOccurrences] using behind []

variable {schema : Schema} {keys : List String}

theorem mem_undeclared {key : String} :
    key ∈ schema.undeclared keys ↔ key ∈ keys ∧ schema.declares key = false := by
  rw [undeclared, List.mem_filter, mem_firstOccurrences, Bool.not_eq_true']

/-- A list has no undeclared key exactly when all of its keys are declared. -/
theorem undeclared_eq_nil_iff :
    schema.undeclared keys = [] ↔ ∀ key ∈ keys, schema.declares key = true := by
  rw [List.eq_nil_iff_forall_not_mem]
  constructor
  · intro none key member
    cases declared : schema.declares key with
    | true => rfl
    | false => exact absurd (mem_undeclared.mpr ⟨member, declared⟩) (none key)
  · intro all key member
    obtain ⟨listed, undeclared⟩ := mem_undeclared.mp member
    exact absurd (all key listed) (by simp [undeclared])

/-! ## Keys picked out of a list -/

/-- The keys of a list that are chosen, each once and in the order of their first appearance. -/
structure ListsOnce (keys listed : List String) (chosen : String → Prop) : Prop where
  members : ∀ key, key ∈ listed ↔ key ∈ keys ∧ chosen key
  nodup : listed.Nodup
  ordered : listed.Pairwise fun left right => keys.idxOf left < keys.idxOf right

theorem firstOccurrences_concat (keys : List String) (key : String) :
    firstOccurrences (keys ++ [key]) =
      if key ∈ keys then firstOccurrences keys else firstOccurrences keys ++ [key] := by
  have known : (firstOccurrences keys).contains key = true ↔ key ∈ keys := by
    rw [List.contains_iff_mem, mem_firstOccurrences]
  have last : firstOccurrences (keys ++ [key]) =
      if (firstOccurrences keys).contains key then firstOccurrences keys
      else firstOccurrences keys ++ [key] := by
    unfold firstOccurrences
    rw [List.foldl_append]
    rfl
  rw [last]
  simp only [known]

theorem ordered_firstOccurrences (keys : List String) :
    (firstOccurrences keys).Pairwise fun left right => keys.idxOf left < keys.idxOf right := by
  induction keys using List.reverseRecOn with
  | nil => exact List.Pairwise.nil
  | append_singleton keys key ih =>
    -- The places of the keys so far are the same in the longer list.
    have front : (firstOccurrences keys).Pairwise fun left right =>
        (keys ++ [key]).idxOf left < (keys ++ [key]).idxOf right := by
      refine ih.imp_of_mem ?_
      intro left right inLeft inRight earlier
      rw [List.idxOf_append_of_mem (mem_firstOccurrences.mp inLeft),
        List.idxOf_append_of_mem (mem_firstOccurrences.mp inRight)]
      exact earlier
    rw [firstOccurrences_concat]
    split
    · exact front
    · next fresh =>
      refine List.pairwise_append.mpr ⟨front, List.pairwise_singleton _ _, ?_⟩
      intro left inLeft right inRight
      obtain rfl := List.mem_singleton.mp inRight
      have known := mem_firstOccurrences.mp inLeft
      rw [List.idxOf_append_of_mem known, List.idxOf_append_of_notMem fresh]
      exact Nat.lt_add_right _ (List.idxOf_lt_length_of_mem known)

/-- A test on the first occurrences picks out the keys that pass it. -/
theorem listsOnce_filter (keys : List String) (test : String → Bool) :
    ListsOnce keys ((firstOccurrences keys).filter test) (fun key => test key = true) where
  members key := by rw [List.mem_filter, mem_firstOccurrences]
  nodup := by
    have ordered := (ordered_firstOccurrences keys).sublist (List.filter_sublist (p := test))
    refine ordered.imp ?_
    rintro left right earlier rfl
    exact Nat.lt_irrefl _ earlier
  ordered := (ordered_firstOccurrences keys).sublist List.filter_sublist

/-- The undeclared keys of a list are reported each once, in the order of their first appearance. -/
theorem listsOnce_undeclared (schema : Schema) (keys : List String) :
    ListsOnce keys (schema.undeclared keys) (fun key => schema.declares key = false) := by
  have listed := listsOnce_filter keys fun key => !schema.declares key
  simp only [Bool.not_eq_true'] at listed
  exact listed

end FieldRules.Schema
