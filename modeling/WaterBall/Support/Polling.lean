import Mathlib.Data.List.Chain
import Mathlib.Tactic.Common

/-!
# Polls of a deadline

A program that polls a clock finds a deadline passed at the first poll behind
it. How late that poll is depends on how far apart the polls are, and a
counter that wraps can tell the time since the start only up to that bound.
-/

namespace Support.Polling

/-- Polls at times that do not go back, each less than `gap` after the one before. -/
def Spaced (gap : Nat) (times : List Nat) : Prop :=
  times.IsChain fun before after => before ≤ after ∧ after < before + gap

instance (gap : Nat) (times : List Nat) : Decidable (Spaced gap times) :=
  inferInstanceAs (Decidable (List.IsChain _ _))

theorem Spaced.head (h : Spaced gap (before :: after :: times)) :
    before ≤ after ∧ after < before + gap := (List.isChain_cons_cons.mp h).1

theorem Spaced.tail (h : Spaced gap (before :: after :: times)) : Spaced gap (after :: times) :=
  (List.isChain_cons_cons.mp h).2

theorem Spaced.start_le (h : Spaced gap (start :: times)) : ∀ t ∈ times, start ≤ t := by
  induction times generalizing start with
  | nil => simp
  | cons t times ih =>
    refine List.forall_mem_cons.mpr ⟨h.head.1, ?_⟩
    intro t' ht'
    exact Nat.le_trans h.head.1 (ih h.tail t' ht')

/-- The poll after some that all came by the deadline. -/
theorem Spaced.next_lt (h : Spaced gap (start :: (earlier ++ [time]))) (hstart : start ≤ deadline)
    (hearlier : ∀ t ∈ earlier, t ≤ deadline) : time < deadline + gap := by
  induction earlier generalizing start with
  | nil => exact Nat.lt_of_lt_of_le h.head.2 (Nat.add_le_add_right hstart gap)
  | cons t earlier ih =>
    obtain ⟨ht, hrest⟩ := List.forall_mem_cons.mp hearlier
    exact ih h.tail ht hrest

theorem Spaced.last_le (h : Spaced gap (times ++ [before, after])) : before ≤ after :=
  (List.isChain_append_cons_cons.mp h).2.1.1

end Support.Polling
