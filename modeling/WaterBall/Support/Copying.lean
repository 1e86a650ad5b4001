import Mathlib.Data.List.Basic
import Mathlib.Logic.Function.Basic
import Mathlib.Tactic.Common

/-!
# Copies between overlapping places

A copy takes the cells of a source one by one to the cells of a destination.
Where the two overlap, a cell can be overwritten before it is read: going up
is safe when no destination cell is a later source cell, and going down when
none is an earlier one.
-/

namespace Support.Copying

section
variable {α β : Type}

/-- The destination holds what the source held, and nothing else has changed. -/
structure Copied (dst src : Nat → α) (n : Nat) (m m' : α → β) : Prop where
  copied : ∀ i, i < n → m' (dst i) = m (src i)
  frame : ∀ a, (∀ i, i < n → a ≠ dst i) → m' a = m a

section
variable [DecidableEq α]

/-- The first `n` cells, from the first on. -/
def copyUp (dst src : Nat → α) (m : α → β) : Nat → α → β
  | 0 => m
  | n + 1 =>
    let m := copyUp dst src m n
    Function.update m (dst n) (m (src n))

/-- The first `n` cells, from the last on. -/
def copyDown (dst src : Nat → α) (m : α → β) : Nat → α → β
  | 0 => m
  | n + 1 => copyDown dst src (Function.update m (dst n) (m (src n))) n

variable {dst src : Nat → α} {n : Nat}

theorem copyUp_copied (m : α → β) (hdst : ∀ i j, i < j → j < n → dst i ≠ dst j)
    (hahead : ∀ i j, i < j → j < n → dst i ≠ src j) :
    Copied dst src n m (copyUp dst src m n) := by
  induction n with
  | zero => exact ⟨fun i hi => absurd hi (Nat.not_lt_zero i), fun _ _ => rfl⟩
  | succ n ih =>
    have hup := ih (fun i j hij hj => hdst i j hij (Nat.lt_succ_of_lt hj))
      fun i j hij hj => hahead i j hij (Nat.lt_succ_of_lt hj)
    have hread : copyUp dst src m n (src n) = m (src n) :=
      hup.frame _ fun i hi => (hahead i n hi (Nat.lt_succ_self n)).symm
    constructor
    · intro i hi
      rw [copyUp, hread]
      obtain hlt | rfl := Nat.lt_succ_iff_lt_or_eq.mp hi
      · rw [Function.update_of_ne (hdst i n hlt (Nat.lt_succ_self n)), hup.copied i hlt]
      · exact Function.update_self ..
    · intro a ha
      rw [copyUp, Function.update_of_ne (ha n (Nat.lt_succ_self n))]
      exact hup.frame a fun i hi => ha i (Nat.lt_succ_of_lt hi)

theorem copyDown_copied (m : α → β) (hdst : ∀ i j, i < j → j < n → dst i ≠ dst j)
    (hbehind : ∀ i j, i < j → j < n → dst j ≠ src i) :
    Copied dst src n m (copyDown dst src m n) := by
  induction n generalizing m with
  | zero => exact ⟨fun i hi => absurd hi (Nat.not_lt_zero i), fun _ _ => rfl⟩
  | succ n ih =>
    have hdown := ih (Function.update m (dst n) (m (src n)))
      (fun i j hij hj => hdst i j hij (Nat.lt_succ_of_lt hj))
      fun i j hij hj => hbehind i j hij (Nat.lt_succ_of_lt hj)
    constructor
    · intro i hi
      rw [copyDown]
      obtain hlt | rfl := Nat.lt_succ_iff_lt_or_eq.mp hi
      · have hunread := (hbehind i n hlt (Nat.lt_succ_self n)).symm
        rw [hdown.copied i hlt, Function.update_of_ne hunread]
      · rw [hdown.frame _ fun j hj => (hdst j i hj (Nat.lt_succ_self i)).symm]
        exact Function.update_self ..
    · intro a ha
      rw [copyDown, hdown.frame a fun i hi => ha i (Nat.lt_succ_of_lt hi),
        Function.update_of_ne (ha n (Nat.lt_succ_self n))]

end

end

end Support.Copying
