import Mathlib.Data.List.Basic
import Mathlib.Logic.Function.Basic
import Mathlib.Tactic.Common

/-!
# Register files behind a lossy line

A register file is a function from registers to values. Writes come over a
line that loses some of them, so a register has what was delivered to it last,
whatever was sent. A sender that writes a register only when the value is new
to itself relies on the line: `CachedRegister` says when that goes well.
-/

namespace Support.RegisterFile

structure Write (α β : Type) where
  register : α
  value : β
  deriving DecidableEq

section
variable {α β : Type} [DecidableEq α] {m : α → β} {r : α} {ws ws' : List (Write α β)}

def storeAll (m : α → β) (ws : List (Write α β)) : α → β :=
  ws.foldl (fun m w => Function.update m w.register w.value) m

/-- The value of the last write to the register. -/
def lastValue (r : α) : List (Write α β) → Option β
  | [] => none
  | w :: ws => (lastValue r ws).or (if w.register = r then some w.value else none)

-- ---------------------------------------------------------------------------
-- The last write to a register
-- ---------------------------------------------------------------------------

@[simp] theorem lastValue_nil : lastValue r ([] : List (Write α β)) = none := rfl

@[simp] theorem lastValue_cons (w : Write α β) : lastValue r (w :: ws) =
    (lastValue r ws).or (if w.register = r then some w.value else none) := rfl

@[simp] theorem lastValue_append :
    lastValue r (ws ++ ws') = (lastValue r ws').or (lastValue r ws) := by
  induction ws with
  | nil => simp
  | cons w ws ih => simp [ih, Option.or_assoc]

theorem lastValue_eq_none (h : ∀ w ∈ ws, w.register ≠ r) : lastValue r ws = none := by
  induction ws with
  | nil => rfl
  | cons w ws ih =>
    obtain ⟨hw, hws⟩ := List.forall_mem_cons.mp h
    rw [lastValue_cons, ih hws, if_neg hw]
    rfl

/-- A register has what was written to it last, or what it had. -/
theorem storeAll_apply : storeAll m ws r = (lastValue r ws).getD (m r) := by
  induction ws generalizing m with
  | nil => rfl
  | cons w ws ih =>
    have hrest : storeAll m (w :: ws) r =
        (lastValue r ws).getD (Function.update m w.register w.value r) := ih
    rw [hrest, lastValue_cons]
    cases lastValue r ws with
    | some v => rfl
    | none =>
      by_cases hw : w.register = r
      · subst hw
        simp
      · simp [hw, Function.update_of_ne (Ne.symm hw)]

end

-- ---------------------------------------------------------------------------
-- The line
-- ---------------------------------------------------------------------------

section
variable {γ : Type} {arrives : Nat → Bool} {ws ws' : List γ}

/-- What gets through of what is sent, where `arrives n` is the fate of the `n`-th. -/
def delivered (arrives : Nat → Bool) : List γ → List γ
  | [] => []
  | w :: ws => (if arrives 0 then [w] else []) ++ delivered (fun n => arrives (n + 1)) ws

@[simp] theorem delivered_nil : delivered arrives ([] : List γ) = [] := rfl

@[simp] theorem delivered_singleton (w : γ) :
    delivered arrives [w] = if arrives 0 then [w] else [] := List.append_nil _

theorem delivered_append : delivered arrives (ws ++ ws') =
    delivered arrives ws ++ delivered (fun n => arrives (n + ws.length)) ws' := by
  induction ws generalizing arrives with
  | nil => rfl
  | cons w ws ih =>
    simp only [List.cons_append, delivered, ih, List.append_assoc, List.length_cons,
      ← Nat.add_assoc]

theorem mem_of_mem_delivered {w : γ} (h : w ∈ delivered arrives ws) : w ∈ ws := by
  induction ws generalizing arrives with
  | nil => exact h
  | cons v ws ih =>
    rcases List.mem_append.mp h with hv | hrest
    · split at hv
      · rw [List.mem_singleton.mp hv]
        exact List.mem_cons_self
      · cases hv
    · exact List.mem_cons_of_mem v (ih hrest)

theorem delivered_of_forall (h : ∀ n, arrives n = true) : delivered arrives ws = ws := by
  induction ws generalizing arrives with
  | nil => rfl
  | cons w ws ih => simp [delivered, h 0, ih fun n => h (n + 1)]

end

-- ---------------------------------------------------------------------------
-- A cache in front of a register
-- ---------------------------------------------------------------------------

/-- What the sender takes the register to hold, and what it holds. -/
structure CachedRegister (β : Type) where
  cached : β
  held : β

section
variable {β : Type} [DecidableEq β] {c : CachedRegister β} {v : β}

/-- The sender asks for a value; it writes only what is new to it. -/
def CachedRegister.request (c : CachedRegister β) (v : β) (arrives : Bool) : CachedRegister β :=
  if c.cached = v then c
  else { cached := v, held := if arrives then v else c.held }

@[simp] theorem CachedRegister.cached_request (c : CachedRegister β) (v : β) (arrives : Bool) :
    (c.request v arrives).cached = v := by
  unfold request
  split
  · assumption
  · rfl

/-- A write that arrives serves the request; one that is not made does so only
when the register holds the value anyway. -/
theorem CachedRegister.held_request_iff :
    (c.request v true).held = v ↔ c.cached ≠ v ∨ c.held = v := by
  unfold request
  by_cases hc : c.cached = v
  · simp [hc]
  · simp [hc]

/-- The register holds what the sender takes it to hold. -/
def CachedRegister.Agrees (c : CachedRegister β) : Prop := c.cached = c.held

theorem CachedRegister.Agrees.held_request (h : c.Agrees) (v : β) :
    (c.request v true).held = v := by
  rw [held_request_iff, h]
  exact (em (c.held = v)).symm

/-- Agreement stays as long as the writes arrive. -/
theorem CachedRegister.Agrees.request (h : c.Agrees) (v : β) : (c.request v true).Agrees :=
  (cached_request c v true).trans (h.held_request v).symm

end

end Support.RegisterFile
