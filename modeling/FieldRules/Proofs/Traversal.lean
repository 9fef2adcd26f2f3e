import Mathlib.Data.List.Forall2

/-!
# Reading lists of texts

A list is read by reading its members in order.  It is read when each of them
is, and then with their results.  Otherwise the first member that is refused
decides the refusal, and what stands behind it is not looked at.

Some members can be left out before they are read.  The results are then those of
the members that are kept (`mapM_filter_eq_ok`).  Members that are always read,
and whose results contribute nothing, can be left out without any difference,
even to a refusal (`map_mapM_filter`).
-/

set_option autoImplicit false

namespace FieldRules.Traversal

variable {α β ε : Type} {read : α → Except ε β}

/-! ## Single steps -/

/-- A computation in two steps succeeds when both steps do. -/
theorem exists_of_bind_eq_ok {step : Except ε α} {next : α → Except ε β} {result : β}
    (whole : step.bind next = .ok result) :
    ∃ value, step = .ok value ∧ next value = .ok result := by
  cases step with
  | error fault => exact absurd whole (by simp [Except.bind])
  | ok value => exact ⟨value, rfl, whole⟩

theorem exists_of_map_eq_ok {step : Except ε α} {change : α → β} {result : β}
    (whole : step.map change = .ok result) : ∃ value, step = .ok value ∧ change value = result := by
  cases step with
  | error fault => exact absurd whole (by simp [Except.map])
  | ok value => exact ⟨value, rfl, Except.ok.inj whole⟩

theorem mapError_eq_ok_iff {δ : Type} {step : Except ε α} {change : ε → δ} {value : α} :
    step.mapError change = .ok value ↔ step = .ok value := by
  cases step with
  | error fault => simp [Except.mapError]
  | ok found => simp [Except.mapError]

/-! ## Lists -/

theorem mapM_cons_eq_ok_iff {item : α} {items : List α} {results : List β} :
    (item :: items).mapM read = .ok results ↔
      ∃ first rest, read item = .ok first ∧ items.mapM read = .ok rest ∧
        results = first :: rest := by
  rw [List.mapM_cons]
  cases head : read item with
  | error fault => simp [bind, Except.bind]
  | ok first =>
    cases tail : items.mapM read with
    | error fault => simp [bind, Except.bind]
    | ok rest => simp [bind, Except.bind, pure, Except.pure, eq_comm]

/-- A list is read with the results of its members. -/
theorem mapM_eq_ok_iff {items : List α} {results : List β} :
    items.mapM read = .ok results ↔
      List.Forall₂ (fun item result => read item = .ok result) items results := by
  induction items generalizing results with
  | nil => simp [pure, Except.pure, eq_comm]
  | cons item items ih =>
    rw [mapM_cons_eq_ok_iff]
    constructor
    · rintro ⟨first, rest, head, tail, rfl⟩
      exact .cons head (ih.mp tail)
    · intro each
      cases each with
      | cons head tail => exact ⟨_, _, head, ih.mpr tail, rfl⟩

/-- Every member of the second list is related to one of the first. -/
theorem exists_left_of_mem {relates : α → β → Prop} {items : List α} {results : List β} {result : β}
    (each : List.Forall₂ relates items results) (member : result ∈ results) :
    ∃ item ∈ items, relates item result := by
  induction each with
  | nil => exact absurd member List.not_mem_nil
  | cons head tail ih =>
    rcases List.mem_cons.mp member with rfl | behind
    · exact ⟨_, List.mem_cons_self, head⟩
    · obtain ⟨item, inside, here⟩ := ih behind
      exact ⟨item, List.mem_cons_of_mem _ inside, here⟩

/-- Parts that agree member by member agree as a whole. -/
theorem filterMap_eq_of_forall₂ {γ : Type} {relates : α → β → Prop} {left? : α → Option γ}
    {right? : β → Option γ} {items : List α} {results : List β}
    (each : List.Forall₂ relates items results)
    (agree : ∀ item result, relates item result → right? result = left? item) :
    results.filterMap right? = items.filterMap left? := by
  induction each with
  | nil => rfl
  | cons head tail ih => rw [List.filterMap_cons, List.filterMap_cons, agree _ _ head, ih]

/-- A part that contributes more contributes all that the other one does, in the same order. -/
theorem filterMap_sublist_of_le {few? many? : α → Option β} (items : List α)
    (adds : ∀ item part, few? item = some part → many? item = some part) :
    (items.filterMap few?).Sublist (items.filterMap many?) := by
  induction items with
  | nil => exact .slnil
  | cons item items ih =>
    cases few : few? item with
    | some part =>
      rw [List.filterMap_cons_some few, List.filterMap_cons_some (adds item part few)]
      exact ih.cons_cons part
    | none =>
      rw [List.filterMap_cons_none few]
      cases many : many? item with
      | some part =>
        rw [List.filterMap_cons_some many]
        exact ih.cons part
      | none =>
        rw [List.filterMap_cons_none many]
        exact ih

/-- Every result is that of a member. -/
theorem exists_item_of_mem {items : List α} {results : List β} {result : β}
    (whole : items.mapM read = .ok results) (member : result ∈ results) :
    ∃ item ∈ items, read item = .ok result := by
  have each := mapM_eq_ok_iff.mp whole
  obtain ⟨item, inside, here⟩ := exists_left_of_mem each member
  exact ⟨item, inside, here⟩

/-- A list is read when each member is. -/
theorem exists_mapM_eq_ok_iff {items : List α} :
    (∃ results, items.mapM read = .ok results) ↔
      ∀ item ∈ items, ∃ result, read item = .ok result := by
  induction items with
  | nil => exact ⟨fun _ => List.forall_mem_nil _, fun _ => ⟨[], rfl⟩⟩
  | cons item items ih =>
    rw [List.forall_mem_cons, ← ih]
    constructor
    · rintro ⟨results, whole⟩
      obtain ⟨first, rest, head, tail, -⟩ := mapM_cons_eq_ok_iff.mp whole
      exact ⟨⟨first, head⟩, rest, tail⟩
    · rintro ⟨⟨first, head⟩, rest, tail⟩
      exact ⟨first :: rest, mapM_cons_eq_ok_iff.mpr ⟨first, rest, head, tail, rfl⟩⟩

/-- A list is refused for its first member that is refused. -/
theorem exists_of_mapM_eq_error {items : List α} {fault : ε}
    (refused : items.mapM read = .error fault) :
    ∃ before item behind, items = before ++ item :: behind ∧
      (∀ earlier ∈ before, ∃ result, read earlier = .ok result) ∧ read item = .error fault := by
  induction items with
  | nil => exact absurd refused (by simp [pure, Except.pure])
  | cons item items ih =>
    cases head : read item with
    | error cause =>
      obtain rfl : cause = fault := by simpa [List.mapM_cons, head, bind, Except.bind] using refused
      exact ⟨[], item, items, rfl, List.forall_mem_nil _, head⟩
    | ok first =>
      cases tail : items.mapM read with
      | ok rest => exact absurd refused (by simp [mapM_cons_eq_ok_iff.mpr ⟨_, _, head, tail, rfl⟩])
      | error cause =>
        obtain rfl : cause = fault := by
          simpa [List.mapM_cons, head, tail, bind, Except.bind] using refused
        obtain ⟨before, middle, behind, rfl, earlier, here⟩ := ih tail
        exact ⟨item :: before, middle, behind, rfl,
          List.forall_mem_cons.mpr ⟨⟨first, head⟩, earlier⟩, here⟩

/-- What is computed from a list that is read is refused exactly when a member is. -/
theorem exists_error_map_iff {γ : Type} {items : List α} {finish : List β → γ} :
    (∃ fault, (items.mapM read).map finish = .error fault) ↔
      ∃ item ∈ items, ∃ fault, read item = .error fault := by
  constructor
  · rintro ⟨fault, refused⟩
    cases whole : items.mapM read with
    | ok results => exact absurd refused (by simp [whole, Except.map])
    | error cause =>
      obtain ⟨before, item, behind, rfl, -, here⟩ := exists_of_mapM_eq_error whole
      exact ⟨item, List.mem_append_right _ List.mem_cons_self, cause, here⟩
  · rintro ⟨item, member, fault, refused⟩
    cases whole : items.mapM read with
    | ok results =>
      obtain ⟨result, here⟩ := exists_mapM_eq_ok_iff.mp ⟨results, whole⟩ item member
      exact absurd (here.symm.trans refused) (by simp)
    | error cause => exact ⟨cause, rfl⟩

/-! ## Members left out -/

/-- The kept members of a list are read with the kept results. -/
theorem mapM_filter_eq_ok {keep : α → Bool} {kept : β → Bool} {items : List α} {results : List β}
    (agree : ∀ item result, read item = .ok result → kept result = keep item)
    (whole : items.mapM read = .ok results) :
    (items.filter keep).mapM read = .ok (results.filter kept) := by
  rw [mapM_eq_ok_iff] at whole ⊢
  refine List.rel_filter ?_ whole
  intro item result here
  exact iff_of_eq (congrArg (· = true) (agree item result here).symm)

/-- The kept members of a list match the parts that its results have, if each kept member matches
the part of its own result and no other result has one. -/
theorem forall₂_filter_filterMap {γ : Type} {relates : α → β → Prop} {matched : α → γ → Prop}
    {keep : α → Bool} {part? : β → Option γ} {items : List α} {results : List β}
    (each : List.Forall₂ relates items results)
    (agree : ∀ item ∈ items, ∀ result, relates item result →
      (keep item = false ∧ part? result = none) ∨
        (keep item = true ∧ ∃ part, part? result = some part ∧ matched item part)) :
    List.Forall₂ matched (items.filter keep) (results.filterMap part?) := by
  induction each with
  | nil => exact .nil
  | cons head tail ih =>
    rw [List.forall_mem_cons] at agree
    obtain ⟨here, behind⟩ := agree
    rcases here _ head with ⟨left, nothing⟩ | ⟨kept, part, found, pair⟩
    · rw [List.filter_cons_of_neg (by simp [left]), List.filterMap_cons_none nothing]
      exact ih behind
    · rw [List.filter_cons_of_pos kept, List.filterMap_cons_some found]
      exact .cons pair (ih behind)

theorem map_mapM_cons {γ : Type} (part? : β → Option γ) (item : α) (items : List α) :
    ((item :: items).mapM read).map (List.filterMap part?) =
      (read item).bind fun first =>
        ((items.mapM read).map (List.filterMap part?)).map fun rest =>
          (part? first).toList ++ rest := by
  rw [List.mapM_cons]
  cases read item with
  | error fault => rfl
  | ok first =>
    cases items.mapM read with
    | error fault => rfl
    | ok rest =>
      change Except.ok ((first :: rest).filterMap part?) =
        Except.ok ((part? first).toList ++ rest.filterMap part?)
      rw [List.filterMap_cons]
      cases part? first <;> rfl

/-- Members that are always read and contribute nothing can be left out. -/
theorem map_mapM_filter {γ : Type} {keep : α → Bool} {part? : β → Option γ} (items : List α)
    (nothing : ∀ item, keep item = false →
      ∃ result, read item = .ok result ∧ part? result = none) :
    ((items.filter keep).mapM read).map (List.filterMap part?) =
      (items.mapM read).map (List.filterMap part?) := by
  induction items with
  | nil => rfl
  | cons item items ih =>
    rw [map_mapM_cons, ← ih]
    cases kept : keep item with
    | true => rw [List.filter_cons_of_pos kept, map_mapM_cons]
    | false =>
      obtain ⟨result, here, empty⟩ := nothing item kept
      rw [List.filter_cons_of_neg (by simp [kept]), here]
      cases (items.filter keep).mapM read with
      | error fault => rfl
      | ok rest => simp [Except.map, Except.bind, empty]

/-- Refusals can be renamed before or after a list is read. -/
theorem mapM_mapError {δ : Type} (rename : ε → δ) (items : List α) :
    (items.mapM fun item => (read item).mapError rename) =
      (items.mapM read).mapError rename := by
  induction items with
  | nil => rfl
  | cons item items ih =>
    rw [List.mapM_cons, List.mapM_cons, ih]
    cases read item with
    | error fault => rfl
    | ok first => cases items.mapM read <;> rfl

end FieldRules.Traversal
