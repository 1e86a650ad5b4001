import Mathlib.Algebra.Group.Nat.Defs
import WaterBall.Support.Rounding
import WaterBall.Game.Clock

/-!
# Milliseconds and ticks

A millisecond is 32.768 ticks, and both conversions round to nearest. In their
words of 32 and 64 bits they are the conversions of numbers, up to the length
from which on the ticks no longer fit.
-/

namespace WaterBall

open Support Rounding

-- ---------------------------------------------------------------------------
-- The SDK's timer
-- ---------------------------------------------------------------------------

/-- What the SDK documents of its timer, at the prescaler in use. -/
structure AppTimer.IsSdk (t : AppTimer) : Prop where
  ticks : ∀ ms, t.appTimerTicks ms appTimerPrescaler =
    (t.roundedDiv (ms.toUInt64 * t.appTimerClockFreq)
      ((appTimerPrescaler.toUInt64 + 1) * 1000)).toUInt32
  diff : ∀ now start, t.appTimerCntDiffCompute now start = (now - start) % 0x1000000
  div : ∀ a b, t.roundedDiv a b = (a + b / 2) / b
  freq : t.appTimerClockFreq = 32768

theorem appTimerSdk_isSdk : appTimerSdk.IsSdk where
  ticks _ := rfl
  diff now start := by
    have hmask : ∀ n, n &&& 0xFFFFFF = n % 2 ^ 24 := Nat.and_two_pow_sub_one_eq_mod (n := 24)
    apply UInt32.toNat_inj.mp
    show ((now - start) &&& 0xFFFFFF).toNat = _
    rw [UInt32.toNat_and, UInt32.toNat_mod]
    exact hmask _
  div _ _ := rfl
  freq := rfl

-- ---------------------------------------------------------------------------
-- The conversions
-- ---------------------------------------------------------------------------

/-- The ticks in some milliseconds: 32768 to every 1000. -/
def msInTicks (ms : Nat) : Nat := rescale 1000 32768 ms

def ticksInMs (ticks : Nat) : Nat := rescale 32768 1000 ticks

theorem msInTicks_eq (ms : Nat) : msInTicks ms = (ms * 32768 + 500) / 1000 := rfl

theorem ticksInMs_eq (ticks : Nat) : ticksInMs ticks = (ticks * 1000 + 16384) / 32768 := rfl

theorem ticksInMs_mono (h : ticks ≤ ticks') : ticksInMs ticks ≤ ticksInMs ticks' := rescale_mono h

section
variable {t : AppTimer} (ht : t.IsSdk)
include ht

theorem AppTimer.IsSdk.toNat_ticksSince (now start : UInt32) :
    (clockTicksSince t now start).toNat = (now - start).toNat % 2 ^ 24 := by
  rw [clockTicksSince, ht.diff]
  exact UInt32.toNat_mod ..

theorem AppTimer.IsSdk.toNat_msInTicks (ms : UInt32) :
    (clockMsInTicks t ms).toNat = msInTicks ms.toNat % 2 ^ 32 := by
  have hlt : ms.toNat < 2 ^ 32 := ms.toNat_lt
  have hticks : clockMsInTicks t ms = ((ms.toUInt64 * 32768 + 500) / 1000).toUInt32 := by
    rw [clockMsInTicks, ht.ticks, ht.div, ht.freq]
    rfl
  rw [hticks, UInt64.toNat_toUInt32, UInt64.toNat_div, UInt64.toNat_add, UInt64.toNat_mul,
    UInt32.toNat_toUInt64]
  simp only [UInt64.reduceToNat]
  simp (disch := omega) only [Nat.mod_eq_of_lt]
  rfl

theorem AppTimer.IsSdk.toNat_msInTicks_of_lt {ms : UInt32} (h : msInTicks ms.toNat < 2 ^ 32) :
    (clockMsInTicks t ms).toNat = msInTicks ms.toNat := by
  rw [ht.toNat_msInTicks, Nat.mod_eq_of_lt h]

/-- No word of the other conversion is too short for it. -/
theorem AppTimer.IsSdk.toNat_ticksInMs (ticks : UInt32) :
    (clockTicksInMs t ticks).toNat = ticksInMs ticks.toNat := by
  have hlt : ticks.toNat < 2 ^ 32 := ticks.toNat_lt
  have hms : clockTicksInMs t ticks =
      ((ticks.toUInt64 * (0 + 1) * 1000 + 16384) / 32768).toUInt32 := by
    rw [clockTicksInMs, ht.div, ht.freq]
    rfl
  rw [hms, UInt64.toNat_toUInt32, UInt64.toNat_div, UInt64.toNat_add, UInt64.toNat_mul,
    UInt64.toNat_mul, UInt32.toNat_toUInt64]
  simp only [UInt64.reduceToNat, UInt64.reduceAdd]
  simp (disch := omega) only [Nat.mul_one, Nat.mod_eq_of_lt]
  rfl

theorem AppTimer.IsSdk.toNat_msUntil (now start ticks : UInt32) :
    (clockMsUntil t now start ticks).toNat =
      ticksInMs (ticks.toNat - (clockTicksSince t now start).toNat) := by
  unfold clockMsUntil
  dsimp only
  split
  case isTrue hpassed =>
    rw [Nat.sub_eq_zero_of_le (UInt32.le_iff_toNat_le.mp hpassed)]
    rfl
  case isFalse hleft =>
    rw [ht.toNat_ticksInMs, UInt32.toNat_sub_of_le]
    exact UInt32.le_iff_toNat_le.mpr (Nat.le_of_lt (Nat.lt_of_not_le hleft))

end

-- ---------------------------------------------------------------------------
-- There and back
-- ---------------------------------------------------------------------------

/-- The ticks fit in their word up to this length. -/
theorem msInTicks_lt_iff (ms : Nat) : msInTicks ms < 2 ^ 32 ↔ ms ≤ 131071999 := by
  rw [msInTicks_eq]
  omega

theorem ticksInMs_lt (h : ticks < 2 ^ 32) : ticksInMs ticks < 2 ^ 32 := by
  rw [ticksInMs_eq]
  omega

theorem ticksInMs_msInTicks (ms : Nat) : ticksInMs (msInTicks ms) = ms :=
  rescale_fine_coarse (by decide) (by decide) ms

/-- The drift is half a millisecond: 16 ticks. -/
theorem msInTicks_ticksInMs_le (ticks : Nat) : msInTicks (ticksInMs ticks) ≤ ticks + 16 :=
  rescale_coarse_fine_le (by decide) ticks

theorem le_msInTicks_ticksInMs (ticks : Nat) : ticks ≤ msInTicks (ticksInMs ticks) + 16 :=
  le_rescale_coarse_fine (by decide) (by decide) ticks

/-- Milliseconds come back as they were, and ticks with at most 16 of them more or less. -/
theorem clockTicksInMs_round_trip {t : AppTimer} (ht : t.IsSdk) :
    (∀ ms : UInt32, ms ≤ 131071999 →
      msInTicks ms.toNat < 2 ^ 32 ∧ (clockMsInTicks t ms).toNat = msInTicks ms.toNat ∧
        clockTicksInMs t (clockMsInTicks t ms) = ms) ∧
    (∀ ticks : UInt32,
      ticks.toNat * (0 + 1) * 1000 + 32768 / 2 < 2 ^ 64 ∧ ticksInMs ticks.toNat < 2 ^ 32 ∧
        (clockTicksInMs t ticks).toNat = ticksInMs ticks.toNat) ∧
    (∀ ticks ticks' : UInt32, ticks ≤ ticks' → clockTicksInMs t ticks ≤ clockTicksInMs t ticks') ∧
    ∀ ticks : UInt32, ticks.toNat < 2 ^ 32 - 16 →
      let back := clockMsInTicks t (clockTicksInMs t ticks)
      msInTicks (ticksInMs ticks.toNat) < 2 ^ 32 ∧
        back.toNat = msInTicks (ticksInMs ticks.toNat) ∧
        back.toNat ≤ ticks.toNat + 16 ∧ ticks.toNat ≤ back.toNat + 16 := by
  refine ⟨?_, ?_, ?_, ?_⟩
  · intro ms hle
    have hfits := (msInTicks_lt_iff ms.toNat).mpr (UInt32.le_iff_toNat_le.mp hle)
    refine ⟨hfits, ht.toNat_msInTicks_of_lt hfits, UInt32.toNat_inj.mp ?_⟩
    rw [ht.toNat_ticksInMs, ht.toNat_msInTicks_of_lt hfits, ticksInMs_msInTicks]
  · intro ticks
    have hlt : ticks.toNat < 2 ^ 32 := ticks.toNat_lt
    exact ⟨by omega, ticksInMs_lt hlt, ht.toNat_ticksInMs ticks⟩
  · intro ticks ticks' hle
    rw [UInt32.le_iff_toNat_le, ht.toNat_ticksInMs, ht.toNat_ticksInMs]
    exact ticksInMs_mono (UInt32.le_iff_toNat_le.mp hle)
  · intro ticks hlt back
    have habove := msInTicks_ticksInMs_le ticks.toNat
    have hbelow := le_msInTicks_ticksInMs ticks.toNat
    have hfits : msInTicks (ticksInMs ticks.toNat) < 2 ^ 32 := by omega
    have hback : back.toNat = msInTicks (ticksInMs ticks.toNat) := by
      rw [← ht.toNat_ticksInMs] at hfits ⊢
      exact ht.toNat_msInTicks_of_lt hfits
    rw [hback]
    exact ⟨hfits, rfl, habove, hbelow⟩

/-- The length of a game, and the largest count that comes back in any case. -/
theorem clockTicksInMs_round_trip_minute :
    clockTicksInMs appTimerSdk (clockMsInTicks appTimerSdk 60000) = 60000 ∧
      (4294967279 : UInt32).toNat ≤
        (clockMsInTicks appTimerSdk (clockTicksInMs appTimerSdk 4294967279)).toNat + 16 := by
  obtain ⟨hms, -, -, hticks⟩ := clockTicksInMs_round_trip appTimerSdk_isSdk
  exact ⟨(hms 60000 (by decide)).2.2, (hticks 4294967279 (by decide)).2.2.2⟩

-- ---------------------------------------------------------------------------
-- Deadlines
-- ---------------------------------------------------------------------------

theorem clockTicksHavePassed_iff (t : AppTimer) (now start ticks : UInt32) :
    clockTicksHavePassed t now start ticks = true ↔
      ticks.toNat ≤ (clockTicksSince t now start).toNat := by
  unfold clockTicksHavePassed
  rw [decide_eq_true_iff]
  exact UInt32.le_iff_toNat_le

theorem AppTimer.IsSdk.msHavePassed_iff {t : AppTimer} (ht : t.IsSdk) (now start ms : UInt32) :
    clockMsHavePassed t now start ms = true ↔
      ms.toNat ≤ ticksInMs (clockTicksSince t now start).toNat := by
  unfold clockMsHavePassed clockMsSince
  rw [decide_eq_true_iff, ← ht.toNat_ticksInMs]
  exact UInt32.le_iff_toNat_le

/-- The elapsed ticks have reached the length in ticks, or half a millisecond
is missing to the one in milliseconds. Lengths of more than 32 bits are cut in
ticks alone. -/
def DeadlinesAgree (passed ms : Nat) : Prop :=
  if ms ≤ 131071999 then msInTicks ms ≤ passed ∨ passed * 1000 + 16384 < ms * 32768
  else passed < msInTicks ms % 2 ^ 32

instance (passed ms : Nat) : Decidable (DeadlinesAgree passed ms) :=
  inferInstanceAs (Decidable (if ms ≤ 131071999 then _ ∨ _ < _ else _ < _))

/-- The test in milliseconds comes out as the one in ticks except in the 16
ticks before the deadline, for lengths that have one in ticks. -/
theorem clockMsHavePassed_eq_iff {t : AppTimer} (ht : t.IsSdk) (now start ms : UInt32) :
    clockMsHavePassed t now start ms =
        clockTicksHavePassed t now start (clockMsInTicks t ms) ↔
      DeadlinesAgree ((now - start).toNat % 2 ^ 24) ms.toNat := by
  rw [Bool.eq_iff_iff, ht.msHavePassed_iff, clockTicksHavePassed_iff, ht.toNat_msInTicks,
    ht.toNat_ticksSince]
  have hpassed : (now - start).toNat % 2 ^ 24 < 2 ^ 24 := Nat.mod_lt _ (by decide)
  generalize (now - start).toNat % 2 ^ 24 = passed at hpassed
  unfold DeadlinesAgree
  split
  case isTrue hle =>
    rw [Nat.mod_eq_of_lt ((msInTicks_lt_iff _).mpr hle)]
    have hearly : msInTicks ms.toNat ≤ passed → ms.toNat ≤ ticksInMs passed :=
      le_rescale_of_rescale_le (by decide) (by decide)
    have hhalf : ms.toNat ≤ ticksInMs passed ↔ ¬ passed * 1000 + 16384 < ms.toNat * 32768 :=
      (le_roundedDiv_iff (by decide)).trans Nat.not_lt.symm
    constructor
    · intro hagree
      obtain hlt | hge := Nat.lt_or_ge (passed * 1000 + 16384) (ms.toNat * 32768)
      · exact .inr hlt
      · exact .inl (hagree.mp (hhalf.mpr (Nat.not_lt.mpr hge)))
    · rintro (hticks | hlt)
      · exact iff_of_true (hearly hticks) hticks
      · have hlater : ¬ ms.toNat ≤ ticksInMs passed := fun h => hhalf.mp h hlt
        exact iff_of_false hlater fun hticks => hlater (hearly hticks)
  case isFalse hgt =>
    have hlater : ¬ ms.toNat ≤ ticksInMs passed := by
      rw [ticksInMs_eq]
      omega
    rw [iff_false_left hlater, Nat.not_le]

theorem clockMsHavePassed_eq_second :
    clockMsHavePassed appTimerSdk 32768 0 1000 =
      clockTicksHavePassed appTimerSdk 32768 0 (clockMsInTicks appTimerSdk 1000) :=
  (clockMsHavePassed_eq_iff appTimerSdk_isSdk 32768 0 1000).mpr (by decide)

/-- 16 ticks before it only the test in milliseconds says that it has passed. -/
theorem clockMsHavePassed_early :
    clockMsInTicks appTimerSdk 1000 < 0x1000000 ∧
      clockMsHavePassed appTimerSdk 32752 0 1000 = true ∧
      clockTicksHavePassed appTimerSdk 32752 0 (clockMsInTicks appTimerSdk 1000) = false := by
  decide

end WaterBall
