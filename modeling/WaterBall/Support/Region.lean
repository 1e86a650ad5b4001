import Mathlib.Data.List.Basic

/-!
# Memory regions

A region is the list of its cells: a read is a slice of it and a copy into it
a splice. Going past the end of the region has no meaning, so `read` and
`write` give `none` there; the neighbouring memory is not modelled.
-/

namespace Support.Region

/-- The `n` cells from `start`, fewer when the region ends before. -/
def slice (m : List α) (start n : Nat) : List α := (m.drop start).take n

/-- The region with `src` in place of the cells from `start`. -/
def splice (m : List α) (start : Nat) (src : List α) : List α :=
  m.take start ++ src ++ m.drop (start + src.length)

/-- A read of `n` cells from `start`, undefined when it would leave the region. -/
def read (m : List α) (start n : Nat) : Option (List α) :=
  if start + n ≤ m.length then some (slice m start n) else none

/-- A copy of `src` to `start`, undefined when it would leave the region. -/
def write (m : List α) (start : Nat) (src : List α) : Option (List α) :=
  if start + src.length ≤ m.length then some (splice m start src) else none

/-- A copy that moves no cell leaves the region alone, wherever it points. -/
def copy (m : List α) (start : Nat) : List α → Option (List α)
  | [] => some m
  | src => write m start src

-- ---------------------------------------------------------------------------
-- Slices
-- ---------------------------------------------------------------------------

@[simp] theorem length_slice (m : List α) (start n : Nat) :
    (slice m start n).length = min n (m.length - start) := by
  simp [slice]

@[simp] theorem slice_zero_start (m : List α) (n : Nat) : slice m 0 n = m.take n := rfl

theorem slice_append_slice (m : List α) (start a b : Nat) :
    slice m start a ++ slice m (start + a) b = slice m start (a + b) := by
  simp only [slice, ← List.drop_drop, ← List.take_add]

-- ---------------------------------------------------------------------------
-- Splices
-- ---------------------------------------------------------------------------

theorem length_splice (h : start + src.length ≤ m.length) :
    (splice m start src).length = m.length := by
  simp only [splice, List.length_append, List.length_take, List.length_drop]
  omega

@[simp] theorem splice_nil (m : List α) (start : Nat) : splice m start [] = m := by
  simp [splice]

theorem splice_zero (m src : List α) : splice m 0 src = src ++ m.drop src.length := by
  simp [splice]

theorem getElem?_splice (h : start + src.length ≤ m.length) (i : Nat) :
    (splice m start src)[i]? =
      if start ≤ i ∧ i < start + src.length then src[i - start]? else m[i]? := by
  have hs : (m.take start).length = start := by simp; omega
  by_cases h1 : i < start
  · rw [splice, List.append_assoc, List.getElem?_append_left (by omega)]
    simp [h1, Nat.not_le_of_lt h1]
  · by_cases h2 : i < start + src.length
    · rw [splice, List.append_assoc, List.getElem?_append_right (by omega), hs,
        List.getElem?_append_left (by omega), if_pos ⟨by omega, h2⟩]
    · rw [splice, List.getElem?_append_right (by simp; omega), if_neg (by omega)]
      simp only [List.length_append, hs, List.getElem?_drop]
      congr 1
      omega

/-- Reading back the cells just written. -/
theorem slice_splice_same (h : start + src.length ≤ m.length) :
    slice (splice m start src) start src.length = src := by
  have hs : (m.take start).length = start := by simp; omega
  rw [slice, splice, List.append_assoc, List.drop_append_of_le_length (by omega),
    List.drop_of_length_le (by omega), List.nil_append, List.take_left']
  rfl

/-- Cells outside the written ones keep their contents. -/
theorem slice_splice_disjoint (h : start + src.length ≤ m.length)
    (hd : at' + n ≤ start ∨ start + src.length ≤ at') :
    slice (splice m start src) at' n = slice m at' n := by
  apply List.ext_getElem?
  intro i
  simp only [slice, List.getElem?_take, List.getElem?_drop, getElem?_splice h]
  split
  · rw [if_neg (by omega)]
  · rfl

/-- Two copies one behind the other are one copy. -/
theorem splice_splice (h : start + a.length + b.length ≤ m.length) :
    splice (splice m start a) (start + a.length) b = splice m start (a ++ b) := by
  have hs : (m.take start).length = start := by simp; omega
  have hd : (m.take start ++ a).length = start + a.length := by simp; omega
  simp only [splice]
  rw [List.take_left' hd, List.length_append, ← Nat.add_assoc, ← hd, ← List.drop_drop,
    List.drop_left, List.drop_drop]
  simp [List.append_assoc]

theorem read_of_fits (h : start + n ≤ m.length) : read m start n = some (slice m start n) := by
  simp [read, h]

theorem read_eq_some : read m start n = some cells ↔
    start + n ≤ m.length ∧ cells = slice m start n := by
  unfold read
  split
  case isTrue h => simp [h, eq_comm]
  case isFalse h => simp [h]

theorem write_eq_some : write m start src = some m' ↔
    start + src.length ≤ m.length ∧ m' = splice m start src := by
  unfold write
  split
  case isTrue h => simp [h, eq_comm]
  case isFalse h => simp [h]

theorem write_of_fits (h : start + src.length ≤ m.length) :
    write m start src = some (splice m start src) := by
  simp [write, h]

theorem copy_eq_some : copy m start src = some m' ↔
    (src = [] ∨ start + src.length ≤ m.length) ∧ m' = splice m start src := by
  unfold copy
  split
  · simp [eq_comm]
  case h_2 hsrc =>
    rw [write_eq_some]
    exact and_congr_left' ⟨.inr, fun h => h.resolve_left hsrc⟩

theorem length_splice_of_copy (h : src = [] ∨ start + src.length ≤ m.length) :
    (splice m start src).length = m.length := by
  rcases h with rfl | h
  · rw [splice_nil]
  · exact length_splice h

theorem copy_of_fits (h : start + src.length ≤ m.length) :
    copy m start src = some (splice m start src) :=
  copy_eq_some.mpr ⟨.inr h, rfl⟩

end Support.Region
