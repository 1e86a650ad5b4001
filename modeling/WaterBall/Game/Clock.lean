import Mathlib.Tactic.Common

/-!
# The clock

`clock.c` and the conversions of `clock.h`, on readings of the SDK's tick
counter that the caller supplies.
-/

namespace WaterBall

/-- What the module uses of the SDK: the conversion of milliseconds to ticks,
the difference of two readings and the macros of the conversion back. -/
structure AppTimer where
  appTimerTicks : UInt32 → UInt32 → UInt32
  appTimerCntDiffCompute : UInt32 → UInt32 → UInt32
  roundedDiv : UInt64 → UInt64 → UInt64
  appTimerClockFreq : UInt64

/-- The SDK's 24-bit counter at 32768 Hz. -/
def appTimerSdk : AppTimer where
  appTimerTicks ms prescaler :=
    ((ms.toUInt64 * 32768 + (prescaler.toUInt64 + 1) * 500) /
      ((prescaler.toUInt64 + 1) * 1000)).toUInt32
  appTimerCntDiffCompute now start := (now - start) &&& 0xFFFFFF
  roundedDiv a b := (a + b / 2) / b
  appTimerClockFreq := 32768

def appTimerPrescaler : UInt32 := 0

def clockMsInTicks (t : AppTimer) (ms : UInt32) : UInt32 := t.appTimerTicks ms appTimerPrescaler

def clockTicksInMs (t : AppTimer) (ticks : UInt32) : UInt32 :=
  (t.roundedDiv (ticks.toUInt64 * (appTimerPrescaler.toUInt64 + 1) * 1000)
    t.appTimerClockFreq).toUInt32

section
variable (t : AppTimer) (now start : UInt32)

def clockTicksSince : UInt32 := t.appTimerCntDiffCompute now start

def clockTicksHavePassed (ticks : UInt32) : Bool := clockTicksSince t now start ≥ ticks

def clockMsUntil (ticks : UInt32) : UInt32 :=
  let passed := clockTicksSince t now start
  if passed ≥ ticks then 0 else clockTicksInMs t (ticks - passed)

def clockMsSince : UInt32 := clockTicksInMs t (clockTicksSince t now start)

def clockMsHavePassed (ms : UInt32) : Bool := clockMsSince t now start ≥ ms

end

end WaterBall
