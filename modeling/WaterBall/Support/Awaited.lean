import Mathlib.Data.List.Basic

/-!
# A message that is waited for

The receiver of a queue waits for one of the messages in it, which it knows by
the number of those ahead. With the next message after it, it is past.
-/

namespace Support

inductive Awaited
  | missing
  | coming (ahead : Nat)
  | here
  deriving DecidableEq, Repr

namespace Awaited

/-- A message is taken from the front. -/
def arrive : Awaited → Awaited
  | coming 0 => here
  | coming (ahead + 1) => coming ahead
  | _ => missing

/-- The queue is lost. -/
def lose : Awaited → Awaited
  | here => here
  | _ => missing

/-- The message carries `value`, and `view` is what the receiver took last. -/
def Holds {α : Type} (value view : α) (queue : List α) : Awaited → Prop
  | missing => True
  | coming ahead => queue[ahead]? = some value
  | here => view = value

section
variable {α : Type} {value view : α} {queue : List α} {awaited : Awaited}

theorem Holds.push (h : awaited.Holds value view queue) (sent : List α) :
    awaited.Holds value view (queue ++ sent) := by
  cases awaited with
  | coming ahead =>
    obtain ⟨hlt, -⟩ := List.getElem?_eq_some_iff.mp h
    exact (List.getElem?_append_left hlt).trans h
  | missing => trivial
  | here => exact h

theorem holds_send (value view : α) (queue : List α) :
    (coming queue.length).Holds value view (queue ++ [value]) :=
  List.getElem?_concat_length

theorem Holds.arrive {first : α} (h : awaited.Holds value view (first :: queue)) :
    awaited.arrive.Holds value first queue := by
  cases awaited with
  | missing => trivial
  | here => trivial
  | coming ahead =>
    cases ahead with
    | zero => exact Option.some.inj h
    | succ ahead => exact h

theorem Holds.lose (h : awaited.Holds value view queue) : awaited.lose.Holds value view [] := by
  cases awaited with
  | here => exact h
  | _ => trivial

end

end Awaited

end Support
