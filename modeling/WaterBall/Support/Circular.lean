import Mathlib.Data.List.Basic
import Mathlib.Data.Nat.ModEq
import Mathlib.Tactic.Common

/-!
# Circular windows

A window is a run of consecutive cells of a fixed memory, wrapping from the
last cell to the first. A queue kept in such a memory is the window from its
read index; the laws below are what a queue needs: dropping from the front,
taking from the front, appending at the end, and reading a window as at most
two unwrapped segments.
-/

namespace Support.Circular

variable {α : Type} {N : Nat} [NeZero N]

/-- The `n` cells of `mem` from index `start` on, wrapping at `N`. -/
def window (mem : Vector α N) (start n : Nat) : List α :=
  (List.range n).map fun i => mem[Fin.ofNat N (start + i)]

@[simp] theorem length_window (mem : Vector α N) (start n : Nat) :
    (window mem start n).length = n := by
  simp [window]

@[simp] theorem window_zero (mem : Vector α N) (start : Nat) : window mem start 0 = [] := rfl

theorem window_replicate (a : α) (start n : Nat) :
    window (Vector.replicate N a) start n = List.replicate n a := by
  simp [window]

theorem getElem?_window (mem : Vector α N) (start n i : Nat) :
    (window mem start n)[i]? =
      if i < n then some (mem[Fin.ofNat N (start + i)]) else none := by
  by_cases h : i < n <;> simp [window, h]

theorem window_mod (mem : Vector α N) (start n : Nat) :
    window mem (start % N) n = window mem start n := by
  unfold window
  congr 1
  funext i
  congr 1
  apply Fin.ext
  simp [Fin.ofNat, Nat.mod_add_mod]

theorem drop_window (mem : Vector α N) (start n k : Nat) :
    (window mem start n).drop k = window mem (start + k) (n - k) := by
  apply List.ext_getElem?
  intro i
  simp only [List.getElem?_drop, getElem?_window, Nat.add_assoc]
  by_cases h : i < n - k
  · rw [if_pos h, if_pos (by omega)]
  · rw [if_neg h, if_neg (by omega)]

theorem take_window (mem : Vector α N) (start n k : Nat) :
    (window mem start n).take k = window mem start (min k n) := by
  apply List.ext_getElem?
  intro i
  simp only [List.getElem?_take, getElem?_window]
  by_cases h : i < k
  · by_cases h' : i < n
    · rw [if_pos h, if_pos h', if_pos (by omega)]
    · rw [if_pos h, if_neg h', if_neg (by omega)]
  · rw [if_neg h, if_neg (by omega)]

theorem window_append (mem : Vector α N) (start a b : Nat) :
    window mem start a ++ window mem (start + a) b = window mem start (a + b) := by
  have h := List.take_append_drop a (window mem start (a + b))
  rw [take_window, drop_window] at h
  simpa using h

/-- Two offsets less than one turn apart are different cells. -/
theorem ofNat_ne {i n : Nat} (hi : i < n) (hn : n < N) (start : Nat) :
    Fin.ofNat N (start + i) ≠ Fin.ofNat N (start + n) := by
  intro h
  have h : (start + i) % N = (start + n) % N := congrArg Fin.val h
  have h : i ≡ n [MOD N] := Nat.ModEq.add_left_cancel' start h
  have : i = n := Nat.ModEq.eq_of_lt_of_lt h (by omega) hn
  omega

/-- Writing the cell behind a window that is not the whole memory leaves the
window as it was. -/
theorem window_set_end (mem : Vector α N) (start n : Nat) (a : α) (hn : n < N) :
    window (mem.setIfInBounds ((start + n) % N) a) start n = window mem start n := by
  apply List.ext_getElem?
  intro i
  simp only [getElem?_window]
  by_cases hi : i < n
  · have hne : (start + n) % N ≠ (start + i) % N := by
      intro h
      exact ofNat_ne hi hn start (Fin.ext h.symm)
    simp [hi, Fin.ofNat, Vector.getElem_setIfInBounds_ne _ hne]
  · simp [hi]

/-- Writing the cell behind a window appends to it. -/
theorem window_push (mem : Vector α N) (start n : Nat) (a : α) (hn : n < N) :
    window (mem.setIfInBounds ((start + n) % N) a) start (n + 1) = window mem start n ++ [a] := by
  rw [← window_append, window_set_end mem start n a hn]
  simp [window, Fin.ofNat]

theorem window_segment (mem : Vector α N) (start n : Nat) (h : start + n ≤ N) :
    window mem start n = (mem.toList.drop start).take n := by
  apply List.ext_getElem?
  intro i
  simp only [getElem?_window, List.getElem?_take, List.getElem?_drop]
  split
  · rw [List.getElem?_eq_getElem (by simp; omega)]
    simp [Fin.ofNat, Nat.mod_eq_of_lt (show start + i < N by omega)]
  · rfl

/-- A window of at most one turn is what is left before the end of the memory,
then the rest from its beginning. -/
theorem window_two_segments (mem : Vector α N) (start n : Nat) (hs : start < N) (hn : n ≤ N) :
    window mem start n = (mem.toList.drop start).take (min n (N - start)) ++
      mem.toList.take (n - min n (N - start)) := by
  have hsplit : n = min n (N - start) + (n - min n (N - start)) := by omega
  conv => lhs; rw [hsplit]
  rw [← window_append, window_segment _ _ _ (by omega)]
  by_cases h : n ≤ N - start
  · simp [Nat.min_eq_left h]
  · have hw : start + min n (N - start) = N := by omega
    have hz := window_mod mem N (n - min n (N - start))
    rw [Nat.mod_self] at hz
    rw [hw, ← hz, window_segment mem 0 _ (by omega), List.drop_zero]

end Support.Circular
