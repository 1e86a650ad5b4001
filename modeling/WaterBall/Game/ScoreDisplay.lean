import WaterBall.Display.Numbers
import WaterBall.Game.Device
import Mathlib.Data.List.TakeWhile

/-!
# The scores on their display

The calls of the game that go to the displays, on a panel, and what the
display of the scores shows for each pair of them.
-/

namespace WaterBall

open Support RegisterFile

-- ---------------------------------------------------------------------------
-- The game on a panel
-- ---------------------------------------------------------------------------

/-- A C literal ends at its first NUL. -/
def CString.ofString (text : String) : CString where
  bytes := text.toUTF8.toList.takeWhile (· ≠ 0)
  noNul h := by simpa using List.mem_takeWhile_imp h

def DeviceCall.displayCall? : DeviceCall → Option DisplayCall
  | .sevenSegmentBlankDigits address => (DisplayAddress.ofValue? address).map .blankDigits
  | .sevenSegmentSetCharDigits address startDigit text colonType =>
    (DisplayAddress.ofValue? address).map fun address =>
      .setCharDigits address startDigit (.ofString text) colonType
  | .sevenSegmentSetNumbers address left right colonType =>
    (DisplayAddress.ofValue? address).map fun address =>
      .setNumbers address left right colonType
  | .server _ | .client _ | .serialWrite _ => none

def panelPerform (past : UInt8 → UInt16) (p : Panel) (buses : Nat → Bus)
    (calls : List DeviceCall) : Panel :=
  panelRun past p ((calls.filterMap DeviceCall.displayCall?).zipIdx.map fun call =>
    (call.1, buses call.2))

-- ---------------------------------------------------------------------------
-- The scores
-- ---------------------------------------------------------------------------

theorem toUInt8_digits {score : UInt32} (h : score ≤ 99) :
    score.toUInt8 / 10 = (score / 10).toUInt8 ∧ score.toUInt8 % 10 = (score % 10).toUInt8 := by
  have hle : score.toNat ≤ 99 := UInt32.le_iff_toNat_le.mp h
  have hlow : score.toUInt8.toNat = score.toNat := by
    rw [UInt32.toNat_toUInt8]
    omega
  refine ⟨UInt8.toNat_inj.mp ?_, UInt8.toNat_inj.mp ?_⟩
  · rw [UInt8.toNat_div, hlow, UInt32.toNat_toUInt8, UInt32.toNat_div]
    simp only [UInt8.reduceToNat, UInt32.reduceToNat]
    omega
  · rw [UInt8.toNat_mod, hlow, UInt32.toNat_toUInt8, UInt32.toNat_mod]
    simp only [UInt8.reduceToNat, UInt32.reduceToNat]
    omega

theorem gamePrintScore_panel (past : UInt8 → UInt16) (p : Panel) (buses : Nat → Bus)
    (myScore theirScore : UInt32) :
    panelPerform past p buses (gamePrintScore myScore theirScore) =
      panelStep past p (.setNumbers .score myScore.toUInt8 theirScore.toUInt8 .none, buses 0) :=
  rfl

/-- The display of the scores shows nothing of what was there before, and
scores of two digits as they are, exactly when the low byte of either score
has at most 16 tens. -/
theorem gamePrintScore_shown_iff (past : UInt8 → UInt16) (buses : Nat → Bus)
    (myScore theirScore : UInt32) (hbus : ∀ n, (buses 0).arrives n = true) :
    let shown (p : Panel) (k : Nat) :=
      (panelPerform past p buses (gamePrintScore myScore theirScore)).registers
        (.score, digitRegister k)
    ((∀ p q : Panel, ∀ k < 4, shown p k = shown q k) ∧
      (myScore ≤ 99 → ∀ p, shown p 0 = numberPattern (myScore / 10).toUInt8 ∧
        shown p 1 = numberPattern (myScore % 10).toUInt8) ∧
      (theirScore ≤ 99 → ∀ p, shown p 2 = numberPattern (theirScore / 10).toUInt8 ∧
        shown p 3 = numberPattern (theirScore % 10).toUInt8)) ↔
    myScore.toNat % 256 < 170 ∧ theirScore.toNat % 256 < 170 := by
  have hlow (score : UInt32) : score.toUInt8 < 170 ↔ score.toNat % 256 < 170 := by
    rw [UInt8.lt_iff_toNat_lt, UInt32.toNat_toUInt8]
    rfl
  have hdigit (p : Panel) (k : Nat) (hk : k < 4) :=
    setNumbers_digit past p .score myScore.toUInt8 theirScore.toUInt8 .none hbus hk
  simp only [gamePrintScore_panel]
  rw [← hlow, ← hlow, ← numberDigits_shown_iff]
  constructor
  · rintro ⟨hsame, -, -⟩ k hk hlt
    have h := hsame ⟨sevenSegmentInit.1, fun _ => 0⟩ ⟨sevenSegmentInit.1, fun _ => 1⟩ k hk
    rw [hdigit _ k hk, hdigit _ k hk, if_pos hlt, if_pos hlt] at h
    cases h
  · intro hshown
    have hpattern (p : Panel) (k : Nat) (hk : k < 4) := by
      have h := hdigit p k hk
      rw [if_neg (hshown k hk)] at h
      exact h
    refine ⟨?_, ?_, ?_⟩
    · intro p q k hk
      rw [hpattern p k hk, hpattern q k hk]
    · intro hmy p
      obtain ⟨htens, hones⟩ := toUInt8_digits hmy
      exact ⟨(hpattern p 0 (by decide)).trans (congrArg numberPattern htens),
        (hpattern p 1 (by decide)).trans (congrArg numberPattern hones)⟩
    · intro htheir p
      obtain ⟨htens, hones⟩ := toUInt8_digits htheir
      exact ⟨(hpattern p 2 (by decide)).trans (congrArg numberPattern htens),
        (hpattern p 3 (by decide)).trans (congrArg numberPattern hones)⟩

/-- The largest score leaves its tens digit as it was. -/
theorem gamePrintScore_left_over :
    let shown (before : UInt8) :=
      (panelPerform (fun _ => 0) ⟨sevenSegmentInit.1, fun _ => before⟩ (fun _ => .clear)
        (gamePrintScore maxScore 0)).registers (.score, digitRegister 0)
    shown 0x3F ≠ shown 0x06 := by
  decide

theorem gamePrintScore_shows_twelve :
    (panelPerform (fun _ => 0) ⟨sevenSegmentInit.1, fun _ => 0xFF⟩ (fun _ => .clear)
      (gamePrintScore 12 7)).registers (.score, digitRegister 1) = numberPattern 2 :=
  (((gamePrintScore_shown_iff (fun _ => 0) (fun _ => .clear) 12 7 Bus.clear_arrives).mpr
    (by decide)).2.1 (by decide) _).2

end WaterBall
