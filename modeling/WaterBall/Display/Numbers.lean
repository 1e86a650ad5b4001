import WaterBall.Display.SegmentLaws

/-!
# Numbers on a display

What the digits of a display show after `seven_segment_set_digits` and
`seven_segment_set_numbers` when all writes arrive. A digit above `0x10` is
not written at all.
-/

namespace WaterBall

open Support RegisterFile

-- ---------------------------------------------------------------------------
-- Digits
-- ---------------------------------------------------------------------------

def numberPattern (digit : UInt8) : UInt8 := numberTable[digit.toNat]?.getD 0

theorem setDigit_writes (hi : i < 4) :
    displayWrites (sevenSegmentSetDigit address i.toUInt8 data) =
      if 0x10 < data then [] else [digitWrite address i (numberPattern data)] := by
  unfold sevenSegmentSetDigit
  split
  case isTrue => rfl
  case isFalse hle =>
    have hlt : data.toNat < 17 := Nat.lt_succ_of_le (UInt8.not_lt.mp hle)
    have hpattern : numberTable.get ⟨data.toNat, hlt⟩ = numberPattern data := by
      unfold numberPattern
      rw [Vector.getElem?_eq_getElem hlt]
      rfl
    rw [setDigitRaw_writes hi, hpattern]

theorem setDigit_lastValue (address : DisplayAddress) (i : Nat) (hi : i < 4) (hk : k < 4)
    (data : UInt8) :
    lastValue (address, digitRegister k)
        (displayWrites (sevenSegmentSetDigit address i.toUInt8 data)) =
      if i = k then if 0x10 < data then none else some (numberPattern data) else none := by
  have hregister : digitRegister i = digitRegister k ↔ i = k :=
    ⟨digitRegister_inj i hi k hk, congrArg digitRegister⟩
  rw [setDigit_writes hi]
  by_cases hdata : 0x10 < data
  · simp [hdata]
  · simp [hdata, digitWrite, hregister]

def fourDigits (digit0 digit1 digit2 digit3 : UInt8) : Nat → UInt8
  | 0 => digit0
  | 1 => digit1
  | 2 => digit2
  | _ => digit3

/-- A digit that is no number leaves what the display had there. -/
theorem setDigits_digit (past : UInt8 → UInt16) (p : Panel) (address : DisplayAddress)
    (digit0 digit1 digit2 digit3 : UInt8) (colonType : ColonType) {bus : Bus}
    (hbus : ∀ n, bus.arrives n = true) (hk : k < 4) :
    (panelStep past p (.setDigits address digit0 digit1 digit2 digit3 colonType, bus)).registers
        (address, digitRegister k) =
      if 0x10 < fourDigits digit0 digit1 digit2 digit3 k then
        p.registers (address, digitRegister k)
      else numberPattern (fourDigits digit0 digit1 digit2 digit3 k) := by
  generalize hcall : DisplayCall.setDigits address digit0 digit1 digit2 digit3 colonType = call
  have haddress : address = call.address := hcall ▸ rfl
  have heffects : call.digitEffects past = (List.range' 0 4).flatMap fun i =>
      sevenSegmentSetDigit address i.toUInt8 (fourDigits digit0 digit1 digit2 digit3 i) := by
    rw [← hcall]
    simp only [DisplayCall.digitEffects, List.append_assoc]
    exact congrArg _ (congrArg _ (congrArg _ (List.append_nil _).symm))
  rw [haddress, panelStep_digit past p call k hbus, heffects, ← haddress]
  simp only [List.range', List.flatMap_cons, List.flatMap_nil, displayWrites_append,
    lastValue_append, setDigit_lastValue address 0 (by decide) hk,
    setDigit_lastValue address 1 (by decide) hk, setDigit_lastValue address 2 (by decide) hk,
    setDigit_lastValue address 3 (by decide) hk]
  have hcases : k = 0 ∨ k = 1 ∨ k = 2 ∨ k = 3 := by omega
  rcases hcases with rfl | rfl | rfl | rfl
  all_goals
    simp only [Nat.reduceEqDiff, Nat.zero_ne_one, Nat.one_ne_zero, if_true, if_false,
      Option.or_none]
    split <;> rfl

-- ---------------------------------------------------------------------------
-- Two numbers
-- ---------------------------------------------------------------------------

def numberDigits (left right : UInt8) : Nat → UInt8 :=
  fourDigits (left / 10) (left % 10) (right / 10) (right % 10)

theorem setNumbers_digit (past : UInt8 → UInt16) (p : Panel) (address : DisplayAddress)
    (left right : UInt8) (colonType : ColonType) {bus : Bus} (hbus : ∀ n, bus.arrives n = true)
    (hk : k < 4) :
    (panelStep past p (.setNumbers address left right colonType, bus)).registers
        (address, digitRegister k) =
      if 0x10 < numberDigits left right k then p.registers (address, digitRegister k)
      else numberPattern (numberDigits left right k) :=
  setDigits_digit past p address (left / 10) (left % 10) (right / 10) (right % 10) colonType
    hbus hk

/-- A number is shown as long as it has at most 16 tens. -/
theorem numberDigits_shown_iff {left right : UInt8} :
    (∀ k < 4, ¬ 0x10 < numberDigits left right k) ↔ left < 170 ∧ right < 170 := by
  have htens (value : UInt8) : ¬ 0x10 < value / 10 ↔ value < 170 := by
    simp only [UInt8.lt_iff_toNat_lt, UInt8.toNat_div, UInt8.reduceToNat]
    omega
  have hones (value : UInt8) : ¬ 0x10 < value % 10 := by
    simp only [UInt8.lt_iff_toNat_lt, UInt8.toNat_mod, UInt8.reduceToNat]
    omega
  constructor
  · intro h
    exact ⟨(htens left).mp (h 0 (by decide)), (htens right).mp (h 2 (by decide))⟩
  · rintro ⟨hleft, hright⟩ k hk
    match k, hk with
    | 0, _ => exact (htens left).mpr hleft
    | 1, _ => exact hones left
    | 2, _ => exact (htens right).mpr hright
    | 3, _ => exact hones right

end WaterBall
