import Mathlib.Data.List.Basic
import Mathlib.Tactic.Common

/-!
# A bounded queue fed from a source

Items arrive at an unbounded source, are moved from its front to a queue of
limited capacity, and are taken from the front of the queue. `conservation`
is the law of such a port over whole runs: what was taken, then the queue,
then the source is the stream that arrived.
-/

namespace Support.BoundedFifo

/-- A queue that cannot hold more than `cap` items. -/
structure Queue (α : Type u) (cap : Nat) where
  items : List α
  bounded : items.length ≤ cap

/-- The queue together with the source it is fed from. -/
structure Port (α : Type u) (cap : Nat) where
  queue : Queue α cap
  source : List α

inductive Op (α : Type u)
  | arrive (item : α)
  | fill
  | take (n : Nat)

@[ext] theorem Queue.ext {p q : Queue α cap} (h : p.items = q.items) : p = q := by
  cases p; cases q; cases h; rfl

@[ext] theorem Port.ext {p q : Port α cap} (hq : p.queue = q.queue) (hs : p.source = q.source) :
    p = q := by
  cases p; cases q; cases hq; cases hs; rfl

/-- How many items a fill moves: all of the source, or as many as fit. -/
def Port.room (p : Port α cap) : Nat := min (cap - p.queue.items.length) p.source.length

def Port.fill (p : Port α cap) : Port α cap :=
  { queue :=
      { items := p.queue.items ++ p.source.take p.room
        bounded := by
          have := p.queue.bounded
          simp only [room, List.length_append, List.length_take]
          omega }
    source := p.source.drop p.room }

def Port.take (p : Port α cap) (n : Nat) : Port α cap :=
  { p with queue :=
      { items := p.queue.items.drop n
        bounded := by
          have := p.queue.bounded
          simp only [List.length_drop]
          omega } }

@[simp] theorem Port.fill_items (p : Port α cap) :
    p.fill.queue.items = p.queue.items ++ p.source.take p.room := rfl

@[simp] theorem Port.fill_source (p : Port α cap) : p.fill.source = p.source.drop p.room := rfl

@[simp] theorem Port.take_items (p : Port α cap) (n : Nat) :
    (p.take n).queue.items = p.queue.items.drop n := rfl

@[simp] theorem Port.take_source (p : Port α cap) (n : Nat) : (p.take n).source = p.source := rfl

/-- One operation: the port after it and the items it hands out. -/
def Port.step (p : Port α cap) : Op α → Port α cap × List α
  | .arrive item => ({ p with source := p.source ++ [item] }, [])
  | .fill => (p.fill, [])
  | .take n => (p.take n, p.queue.items.take n)

/-- A run: the port after it and everything it handed out. -/
def Port.run (p : Port α cap) : List (Op α) → Port α cap × List α
  | [] => (p, [])
  | op :: ops =>
    let (p', out) := p.step op
    let (p'', rest) := p'.run ops
    (p'', out ++ rest)

/-- What a port still holds, in the order it will be handed out. -/
def Port.held (p : Port α cap) : List α := p.queue.items ++ p.source

def Op.arrived : Op α → List α
  | .arrive item => [item]
  | _ => []

theorem Port.step_held (p : Port α cap) (op : Op α) :
    (p.step op).2 ++ (p.step op).1.held = p.held ++ op.arrived := by
  cases op with
  | arrive item => simp [step, held, Op.arrived]
  | fill => simp [step, held, Op.arrived]
  | take n =>
    simp only [step, held, take_items, take_source, Op.arrived, List.append_nil]
    rw [← List.append_assoc, List.take_append_drop]

/-- Nothing is lost, duplicated or reordered, over any run. -/
theorem Port.conservation (p : Port α cap) (ops : List (Op α)) :
    (p.run ops).2 ++ (p.run ops).1.held = p.held ++ ops.flatMap Op.arrived := by
  induction ops generalizing p with
  | nil => simp [run]
  | cons op ops ih =>
    simp only [run, List.flatMap_cons, List.append_assoc, ih (p.step op).1]
    rw [← List.append_assoc, step_held, List.append_assoc]

end Support.BoundedFifo
