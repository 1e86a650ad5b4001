import Mathlib.Data.List.Basic
import Mathlib.Tactic.Common

/-!
# A queue served in order, with failures

Items wait and are settled from the front, each either served or lost. So what
was served, then what waits, is part of what arrived, in the same order, and
it is all of it as long as nothing was lost.
-/

namespace Support.ServedQueue

inductive Op (α : Type)
  | arrive (item : α)
  | settle (ok : Bool)

structure Line (α : Type) where
  waiting : List α
  served : List α
  failed : Nat

section
variable {α : Type}

def Line.empty : Line α := ⟨[], [], 0⟩

def Line.step (l : Line α) : Op α → Line α
  | .arrive item => { l with waiting := l.waiting ++ [item] }
  | .settle ok =>
    match l.waiting with
    | [] => l
    | item :: waiting =>
      if ok then { l with waiting, served := l.served ++ [item] }
      else { l with waiting, failed := l.failed + 1 }

def Line.run (l : Line α) (ops : List (Op α)) : Line α := ops.foldl Line.step l

def Op.item? : Op α → Option α
  | .arrive item => some item
  | .settle _ => none

/-- What arrives in a run. -/
def arrivals (ops : List (Op α)) : List α := ops.filterMap Op.item?

@[simp] theorem arrivals_nil : arrivals ([] : List (Op α)) = [] := rfl

@[simp] theorem arrivals_arrive (item : α) : arrivals [.arrive item] = [item] := rfl

@[simp] theorem arrivals_settle (ok : Bool) : arrivals [(.settle ok : Op α)] = [] := rfl

@[simp] theorem arrivals_append (ops ops' : List (Op α)) :
    arrivals (ops ++ ops') = arrivals ops ++ arrivals ops' := List.filterMap_append

theorem Line.run_append (l : Line α) (ops ops' : List (Op α)) :
    l.run (ops ++ ops') = (l.run ops).run ops' := List.foldl_append

theorem Line.step_settle (l : Line α) (ok : Bool) :
    (l.step (.settle ok)).waiting = l.waiting.tail ∧
      (l.step (.settle ok)).served = l.served ++ if ok then l.waiting.head?.toList else [] := by
  cases hwaiting : l.waiting with
  | nil => simp [step, hwaiting]
  | cons item waiting => cases ok <;> simp [step, hwaiting]

/-- What waits is what arrived last. -/
theorem Line.run_suffix (l : Line α) (ops : List (Op α)) :
    (l.run ops).waiting <:+ l.waiting ++ arrivals ops := by
  induction ops generalizing l with
  | nil => simp [run, arrivals]
  | cons op ops ih =>
    have hrest := ih (l.step op)
    cases op with
    | arrive item =>
      rw [step, List.append_assoc] at hrest
      exact hrest
    | settle ok =>
      rw [(l.step_settle ok).1] at hrest
      obtain ⟨front, hfront⟩ := List.tail_suffix l.waiting
      refine hrest.trans ⟨front, ?_⟩
      rw [← List.append_assoc, hfront]
      rfl

section
variable {β : Type} (f : α → β)

def Op.map : Op α → Op β
  | .arrive item => .arrive (f item)
  | .settle ok => .settle ok

def Line.map (l : Line α) : Line β := ⟨l.waiting.map f, l.served.map f, l.failed⟩

end

end

end Support.ServedQueue
