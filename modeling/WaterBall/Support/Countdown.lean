import Mathlib.Data.List.Basic
import Mathlib.Tactic.Common

/-!
# Every n-th item

A counter that is counted down at each item and loaded again when it reaches
zero picks every n-th of them.
-/

namespace Support.Countdown

section
variable {α : Type} {n k : Nat}

/-- The items at which a counter that stands at `k` reaches zero, when it is
loaded with `n` each time. -/
def every (n : Nat) : Nat → List α → List α
  | _, [] => []
  | k, item :: items => if k ≤ 1 then item :: every n n items else every n (k - 1) items

/-- The place of each item that is picked. -/
theorem getElem?_every (hn : 0 < n) (hk : 0 < k) (items : List α) (j : Nat) :
    (every n k items)[j]? = items[k - 1 + j * n]? := by
  induction items generalizing k j with
  | nil => simp [every]
  | cons item items ih =>
    rw [every]
    split
    case isTrue hlast =>
      obtain rfl : k = 1 := by omega
      cases j with
      | zero => simp
      | succ j =>
        have hplace : 1 - 1 + (j + 1) * n = n - 1 + j * n + 1 := by
          rw [Nat.succ_mul]
          omega
        rw [hplace, List.getElem?_cons_succ, List.getElem?_cons_succ, ih hn j]
    case isFalse hmore =>
      have hplace : k - 1 + j * n = k - 1 - 1 + j * n + 1 := by omega
      rw [hplace, List.getElem?_cons_succ]
      exact ih (by omega) j

end

end Support.Countdown
