import Mathlib.Data.List.Basic
import Mathlib.Tactic.Common

/-!
# A value and its mirror

One side of a link has a value and sends it on, the other keeps what it took
last. The values on the way come oldest first.
-/

namespace Support.Mirror

section
variable {α : Type}

/-- What the mirror shows once everything on the way has arrived. -/
def latest (view : α) (values : List α) : α := values.getLast?.getD view

/-- A delivery moves the first value into the mirror. -/
@[simp] theorem latest_cons (view value : α) (values : List α) :
    latest view (value :: values) = latest value values := by
  unfold latest
  rw [List.getLast?_cons]
  rfl

/-- A value that is sent is the latest at once. -/
@[simp] theorem latest_concat (view value : α) (values : List α) :
    latest view (values ++ [value]) = value := by
  unfold latest
  rw [List.getLast?_concat]
  rfl

/-- The source repeats itself. -/
theorem latest_append {view value : α} {values sent : List α} (h : latest view values = value)
    (hsent : ∀ v ∈ sent, v = value) : latest view (values ++ sent) = value := by
  rcases sent.eq_nil_or_concat with rfl | ⟨sent, v, rfl⟩
  · rwa [List.append_nil]
  · rw [List.concat_eq_append] at hsent ⊢
    rw [← List.append_assoc, latest_concat]
    exact hsent v (List.mem_append_right sent List.mem_cons_self)

/-- The values are in messages, of which some have none. -/
theorem latest_filterMap_cons {μ : Type} (f : μ → Option α) (view : α) (m : μ) (rest : List μ) :
    latest view ((m :: rest).filterMap f) = latest ((f m).getD view) (rest.filterMap f) := by
  rw [List.filterMap_cons]
  cases f m with
  | none => rfl
  | some value => exact latest_cons view value _

theorem filterMap_append_none {μ : Type} {f : μ → Option α} {ms sent : List μ}
    (h : ∀ m ∈ sent, f m = none) : (ms ++ sent).filterMap f = ms.filterMap f := by
  rw [List.filterMap_append, List.filterMap_eq_nil_iff.mpr h, List.append_nil]

end

section
variable {α : Type} [LE α]

/-- Mirror and link lag behind a value that only grows. -/
structure Lags (value view : α) (values : List α) : Prop where
  view_le : view ≤ value
  values_le : ∀ v ∈ values, v ≤ value

theorem Lags.send {value view : α} {values sent : List α} (h : Lags value view values)
    (hsent : ∀ v ∈ sent, v ≤ value) : Lags value view (values ++ sent) :=
  ⟨h.view_le, fun v hv => (List.mem_append.mp hv).elim (h.values_le v) (hsent v)⟩

theorem Lags.take {value view view' : α} {values values' : List α} (h : Lags value view values)
    (hview : view' = view ∨ view' ∈ values) (hsub : ∀ v ∈ values', v ∈ values) :
    Lags value view' values' := by
  refine ⟨?_, fun v hv => h.values_le v (hsub v hv)⟩
  rcases hview with rfl | hmem
  · exact h.view_le
  · exact h.values_le view' hmem

variable [Std.IsPreorder α]

theorem Lags.start (value : α) : Lags value value [] := ⟨Std.le_refl value, nofun⟩

theorem Lags.grow {value value' view : α} {values : List α} (h : Lags value view values)
    (hle : value ≤ value') : Lags value' view values :=
  ⟨Std.le_trans h.view_le hle, fun v hv => Std.le_trans (h.values_le v hv) hle⟩

end

-- ---------------------------------------------------------------------------
-- Switches
-- ---------------------------------------------------------------------------

/-- Every value on the way switches the mirror, and the last one leaves it at
the value. -/
def Switches (view : Bool) : List Bool → Bool → Prop
  | [], value => view = value
  | v :: values, value => v = !view ∧ Switches v values value

@[simp] theorem switches_nil {view value : Bool} : Switches view [] value ↔ view = value := Iff.rfl

theorem Switches.concat {view value : Bool} {values : List Bool} (h : Switches view values value) :
    Switches view (values ++ [!value]) (!value) := by
  induction values generalizing view with
  | nil => exact ⟨congrArg _ (h : view = value).symm, rfl⟩
  | cons v values ih => exact ⟨h.1, ih h.2⟩

theorem Switches.latest {view value : Bool} {values : List Bool}
    (h : Switches view values value) : latest view values = value := by
  induction values generalizing view with
  | nil => exact h
  | cons v values ih =>
    rw [latest_cons]
    exact ih h.2

theorem Switches.eq_nil {view value : Bool} {values : List Bool} (h : Switches view values value)
    (hmem : (!view) ∉ values) : values = [] ∧ view = value := by
  cases values with
  | nil => exact ⟨rfl, h⟩
  | cons v values => exact absurd List.mem_cons_self (h.1 ▸ hmem)

end Support.Mirror
