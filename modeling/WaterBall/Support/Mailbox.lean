import Mathlib.Data.List.Basic
import Mathlib.Tactic.Common

/-!
# A box with one place

A new item replaces one that has not been taken, and an item that has been
taken is gone. So what is taken is part of what was put in, in the same
order, and no item is taken twice.
-/

namespace Support.Mailbox

inductive Op (α : Type)
  | put (item : α)
  | take

section
variable {α : Type}

/-- The box after an operation, and the answer to a `take`. -/
def step (box : Option α) : Op α → Option α × List (Option α)
  | .put item => (some item, [])
  | .take => (none, [box])

def run (box : Option α) : List (Op α) → Option α × List (Option α)
  | [] => (box, [])
  | op :: ops =>
    let (box, answer) := step box op
    let (box, rest) := run box ops
    (box, answer ++ rest)

def Op.item? : Op α → Option α
  | .put item => some item
  | .take => none

theorem run_append (box : Option α) (ops ops' : List (Op α)) :
    run box (ops ++ ops') =
      ((run (run box ops).1 ops').1, (run box ops).2 ++ (run (run box ops).1 ops').2) := by
  induction ops generalizing box with
  | nil => rfl
  | cons op ops ih => simp only [List.cons_append, run, ih, List.append_assoc]

/-- What was taken, with what is still there. -/
theorem taken_sublist (box : Option α) (ops : List (Op α)) :
    ((run box ops).2.filterMap id ++ (run box ops).1.toList).Sublist
      (box.toList ++ ops.filterMap Op.item?) := by
  induction ops generalizing box with
  | nil => simp [run]
  | cons op ops ih =>
    cases op with
    | put item =>
      refine (ih (some item)).trans ?_
      exact List.sublist_append_right box.toList (item :: ops.filterMap Op.item?)
    | take =>
      cases box with
      | none => exact ih none
      | some item => exact (ih none).cons_cons item

end

end Support.Mailbox
