import Mathlib.Data.List.Basic

/-!
# Steps with known faults

A step that can be refused ends with a result that fits, or with a fault of a
known kind (`Ends`).  A step that also goes on with a state keeps an invariant of
the state (`Keeps`).  Both hold of a sequence of steps when they hold of each
step, so a reader that is put together from small steps needs one fact for each
of them.
-/

set_option autoImplicit false

namespace FieldRules

variable {ε σ α β : Type} {known : ε → Prop}

/-! ## Steps -/

/-- A step that ends with a result that fits, or with a fault of a known kind. -/
def Ends (known : ε → Prop) (fits : α → Prop) (step : Except ε α) : Prop :=
  match step with
  | .ok value => fits value
  | .error fault => known fault

/-- A step that is refused for a fault of a known kind only. -/
abbrev RefusesOnly (known : ε → Prop) (step : Except ε α) : Prop := Ends known (fun _ => True) step

namespace Ends

variable {fits : α → Prop} {fitsToo : β → Prop} {step : Except ε α}

theorem ok {value : α} (fit : fits value) : Ends known fits (.ok value) := fit

theorem error {fault : ε} (isKnown : known fault) : Ends known fits (.error fault) := isKnown

theorem known_of_error (ends : Ends known fits step) {fault : ε} (refused : step = .error fault) :
    known fault := by
  subst refused
  exact ends

theorem bind {next : α → Except ε β} (first : Ends known fits step)
    (others : ∀ value, fits value → Ends known fitsToo (next value)) :
    Ends known fitsToo (step >>= next) := by
  cases step with
  | error fault => exact first
  | ok value => exact others value first

theorem error_bind {fault : ε} (isKnown : known fault) (next : α → Except ε β) :
    Ends known fitsToo (Except.error fault >>= next) := isKnown

theorem ite {condition : Prop} [Decidable condition] {other : Except ε α}
    (yes : condition → Ends known fits step) (no : ¬ condition → Ends known fits other) :
    Ends known fits (if condition then step else other) := by
  split
  · next holds => exact yes holds
  · next fails => exact no fails

theorem map {change : α → β} (first : Ends known fits step)
    (changed : ∀ value, fits value → fitsToo (change value)) :
    Ends known fitsToo (step.map change) := by
  cases step with
  | error fault => exact first
  | ok value => exact changed value first

theorem mono {fits' : α → Prop} {known' : ε → Prop} (ends : Ends known fits step)
    (ofKnown : ∀ fault, known fault → known' fault) (ofFits : ∀ value, fits value → fits' value) :
    Ends known' fits' step := by
  cases step with
  | error fault => exact ofKnown fault ends
  | ok value => exact ofFits value ends

theorem mapM {read : α → Except ε β} {items : List α}
    (each : ∀ item ∈ items, RefusesOnly known (read item)) :
    RefusesOnly known (items.mapM read) := by
  induction items with
  | nil => trivial
  | cons item items ih =>
    rw [List.forall_mem_cons] at each
    rw [List.mapM_cons]
    exact each.1.bind fun _ _ => (ih each.2).bind fun _ _ => trivial

theorem foldlM {next : β → α → Except ε β} {items : List α}
    (each : ∀ state, fitsToo state → ∀ item ∈ items, Ends known fitsToo (next state item))
    {start : β} (fit : fitsToo start) : Ends known fitsToo (items.foldlM next start) := by
  induction items generalizing start with
  | nil => exact fit
  | cons item items ih =>
    rw [List.foldlM_cons]
    refine (each start fit item List.mem_cons_self).bind fun state fits => ih ?_ fits
    exact fun state fits other member => each state fits other (List.mem_cons_of_mem _ member)

end Ends

/-! ## Steps with a state -/

/-- A step that keeps an invariant of the state, or ends with a fault of a known kind. -/
def Keeps (invariant : σ → Prop) (known : ε → Prop) (step : StateT σ (Except ε) α) : Prop :=
  ∀ state, invariant state → Ends known (fun ended => invariant ended.2) (step.run state)

namespace Keeps

variable {invariant : σ → Prop} {step : StateT σ (Except ε) α} {next : α → StateT σ (Except ε) β}

theorem pure (value : α) : Keeps invariant known (Pure.pure value) := fun _ holds => holds

theorem throw {fault : ε} (isKnown : known fault) :
    Keeps invariant known (MonadExcept.throw fault : StateT σ (Except ε) α) := fun _ _ => isKnown

theorem ite {condition : Prop} [Decidable condition] {other : StateT σ (Except ε) α}
    (yes : condition → Keeps invariant known step)
    (no : ¬ condition → Keeps invariant known other) :
    Keeps invariant known (if condition then step else other) := by
  split
  · next holds => exact yes holds
  · next fails => exact no fails

theorem bind (first : Keeps invariant known step)
    (others : ∀ value, Keeps invariant known (next value)) :
    Keeps invariant known (step >>= next) := by
  intro state holds
  rw [StateT.run_bind]
  exact (first state holds).bind fun ended holds => others ended.1 ended.2 holds

theorem throw_bind {fault : ε} (isKnown : known fault) (next : α → StateT σ (Except ε) β) :
    Keeps invariant known (MonadExcept.throw fault >>= next) := fun _ _ => isKnown

theorem map (first : Keeps invariant known step) (change : α → β) :
    Keeps invariant known (change <$> step) := by
  rw [map_eq_pure_bind]
  exact first.bind fun _ => .pure _

/-- What comes after a look at the state may rely on the invariant. -/
theorem get_bind {next : σ → StateT σ (Except ε) β}
    (others : ∀ state, invariant state → Keeps invariant known (next state)) :
    Keeps invariant known (get >>= next) :=
  fun state holds => others state holds state holds

/-- What comes after a step without a state may rely on its result. -/
theorem lift_bind {step : Except ε α} {fits : α → Prop} (first : Ends known fits step)
    (others : ∀ value, fits value → Keeps invariant known (next value)) :
    Keeps invariant known (liftM step >>= next) := by
  cases step with
  | error fault => exact fun _ _ => first
  | ok value => exact others value first

theorem set {state : σ} (holds : invariant state) :
    Keeps invariant known (MonadStateOf.set state : StateT σ (Except ε) PUnit) := fun _ _ => holds

theorem modify {change : σ → σ} (keeps : ∀ state, invariant state → invariant (change state)) :
    Keeps invariant known (modify change : StateT σ (Except ε) PUnit) := keeps

theorem foldlM {read : β → α → StateT σ (Except ε) β} {items : List α}
    (each : ∀ state, ∀ item ∈ items, Keeps invariant known (read state item)) (start : β) :
    Keeps invariant known (items.foldlM read start) := by
  induction items generalizing start with
  | nil => exact .pure start
  | cons item items ih =>
    rw [List.foldlM_cons]
    refine (each start item List.mem_cons_self).bind fun state => ih ?_ state
    exact fun state other member => each state other (List.mem_cons_of_mem _ member)

theorem forM {read : α → StateT σ (Except ε) PUnit} {items : List α}
    (each : ∀ item ∈ items, Keeps invariant known (read item)) :
    Keeps invariant known (items.forM read) := by
  induction items with
  | nil => exact .pure _
  | cons item items ih =>
    rw [List.forall_mem_cons] at each
    exact each.1.bind fun _ => ih each.2

theorem mapM {read : α → StateT σ (Except ε) β} {items : List α}
    (each : ∀ item ∈ items, Keeps invariant known (read item)) :
    Keeps invariant known (items.mapM read) := by
  induction items with
  | nil => exact .pure _
  | cons item items ih =>
    rw [List.forall_mem_cons] at each
    rw [List.mapM_cons]
    exact each.1.bind fun _ => (ih each.2).bind fun _ => .pure _

end Keeps

end FieldRules
