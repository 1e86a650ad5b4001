import Mathlib.Order.Basic
import Mathlib.Tactic.Common

/-!
# Division rounded to nearest

Amounts of one unit are converted to another by a rounded division. Going to
the finer unit and back changes nothing; going to the coarser one and back
moves an amount by about half a coarse unit, so a deadline that is tested in
the coarse unit is met that much before the same deadline in the fine one.
-/

namespace Support.Rounding

/-- Halves of an even divisor go up. -/
def roundedDiv (a b : Nat) : Nat := (a + b / 2) / b

section
variable {a a' b c : Nat}

theorem le_roundedDiv_iff (hb : 0 < b) : c ≤ roundedDiv a b ↔ c * b ≤ a + b / 2 :=
  Nat.le_div_iff_mul_le hb

theorem roundedDiv_mono (h : a ≤ a') : roundedDiv a b ≤ roundedDiv a' b :=
  Nat.div_le_div_right (Nat.add_le_add_right h (b / 2))

/-- At most half a divisor above the dividend. -/
theorem roundedDiv_mul_le (a b : Nat) : roundedDiv a b * b ≤ a + b / 2 :=
  Nat.div_mul_le_self (a + b / 2) b

/-- And at most half a divisor below it. -/
theorem lt_roundedDiv_mul (a : Nat) (hb : 0 < b) : a + b / 2 < roundedDiv a b * b + b := by
  have h := Nat.lt_mul_div_succ (a + b / 2) hb
  rwa [Nat.mul_comm, Nat.succ_mul] at h

theorem roundedDiv_eq (hle : c * b ≤ a + b / 2) (hlt : a + b / 2 < c * b + b) :
    roundedDiv a b = c :=
  Nat.div_eq_of_lt_le hle (by rwa [Nat.succ_mul])

end

-- ---------------------------------------------------------------------------
-- Units
-- ---------------------------------------------------------------------------

/-- An amount of a unit in another, of which there are `there` to every `here`. -/
def rescale (here there n : Nat) : Nat := roundedDiv (n * there) here

section
variable {coarse fine n m : Nat}

theorem rescale_mono {here there : Nat} (h : n ≤ m) :
    rescale here there n ≤ rescale here there m :=
  roundedDiv_mono (Nat.mul_le_mul_right there h)

theorem rescale_fine_coarse (hcoarse : 0 < coarse) (hlt : coarse < fine) (n : Nat) :
    rescale fine coarse (rescale coarse fine n) = n := by
  have hle := roundedDiv_mul_le (n * fine) coarse
  have hgt := lt_roundedDiv_mul (n * fine) hcoarse
  refine roundedDiv_eq ?_ ?_
  · show n * fine ≤ roundedDiv (n * fine) coarse * coarse + fine / 2
    omega
  · show roundedDiv (n * fine) coarse * coarse + fine / 2 < n * fine + fine
    omega

/-- How far an amount can move on its way over the coarse unit. -/
def drift (coarse fine : Nat) : Nat := (coarse + fine) / (2 * coarse)

theorem le_add_drift {a b : Nat} (hcoarse : 0 < coarse)
    (h : 2 * (a * coarse) ≤ 2 * (b * coarse) + (coarse + fine)) : a ≤ b + drift coarse fine := by
  obtain hle | hlt := Nat.le_total a b
  · exact Nat.le_trans hle (Nat.le_add_right b _)
  · obtain ⟨k, rfl⟩ := Nat.exists_eq_add_of_le hlt
    have hk : k * (2 * coarse) ≤ coarse + fine := by
      rw [Nat.add_mul] at h
      rw [Nat.mul_left_comm]
      omega
    have hdrift : k ≤ drift coarse fine :=
      (Nat.le_div_iff_mul_le (Nat.mul_pos Nat.two_pos hcoarse)).mpr hk
    exact Nat.add_le_add_left hdrift b

theorem rescale_coarse_fine_le (hcoarse : 0 < coarse) (n : Nat) :
    rescale coarse fine (rescale fine coarse n) ≤ n + drift coarse fine := by
  have hthere := roundedDiv_mul_le (n * coarse) fine
  have hback := roundedDiv_mul_le (rescale fine coarse n * fine) coarse
  refine le_add_drift hcoarse ?_
  unfold rescale at hback ⊢
  omega

theorem le_rescale_coarse_fine (hcoarse : 0 < coarse) (hfine : 0 < fine) (n : Nat) :
    n ≤ rescale coarse fine (rescale fine coarse n) + drift coarse fine := by
  have hthere := lt_roundedDiv_mul (n * coarse) hfine
  have hback := lt_roundedDiv_mul (rescale fine coarse n * fine) hcoarse
  refine le_add_drift hcoarse ?_
  unfold rescale at hback ⊢
  omega

-- ---------------------------------------------------------------------------
-- Deadlines
-- ---------------------------------------------------------------------------

/-- A deadline that has passed in fine units has passed in coarse ones. -/
theorem le_rescale_of_rescale_le (hcoarse : 0 < coarse) (hlt : coarse < fine)
    (h : rescale coarse fine n ≤ m) : n ≤ rescale fine coarse m := by
  rw [← rescale_fine_coarse hcoarse hlt n]
  exact rescale_mono h

end

end Support.Rounding
