import WaterBall.Display.SegmentLaws
import Mathlib.Data.List.Induction

/-!
# The cached colon

For each display the panel has a cached register: what the driver takes the
colon to be and what the display shows. A call on the display is a request to
it, whatever became of the writes before.
-/

namespace WaterBall

open Support RegisterFile

/-- The colon of one display, with what the driver takes it to be. -/
def Panel.colon (p : Panel) (address : DisplayAddress) : CachedRegister UInt8 where
  cached := p.driver.colon address
  held := p.registers (address, 4)

-- ---------------------------------------------------------------------------
-- Calls and runs
-- ---------------------------------------------------------------------------

theorem DigitsOnly.lastValue {address other : DisplayAddress} {es : List SegmentEffect}
    (h : DigitsOnly address es) (arrives : Nat → Bool) :
    lastValue (other, 4) (delivered arrives (displayWrites es)) = none := by
  refine lastValue_eq_none ?_
  rintro w hw heq
  refine (h w (mem_of_mem_delivered hw)).2 ?_
  rw [heq]

/-- The digits leave the colon to the last write of a call. -/
theorem panelStep_held (past : UInt8 → UInt16) (p : Panel) (call : DisplayCall) (bus : Bus)
    (address : DisplayAddress) : (panelStep past p (call, bus)).registers (address, 4) =
      if p.driver.colon call.address ≠ call.colonType.value ∧ call.address = address ∧
          bus.arrives (displayWrites (call.digitEffects past)).length then
        call.colonType.value
      else p.registers (address, 4) := by
  simp only [panelStep, Panel.transmit, call.run_eq, storeAll_apply, displayWrites_append,
    delivered_append, lastValue_append, (call.digitsOnly past).lastValue, Option.or_none,
    setColon_lastValue, Nat.zero_add]
  split
  · rfl
  · rfl

theorem panelStep_cached (past : UInt8 → UInt16) (p : Panel) (call : DisplayCall) (bus : Bus)
    (address : DisplayAddress) : (panelStep past p (call, bus)).driver.colon address =
      if call.address = address then call.colonType.value else p.driver.colon address := by
  simp only [panelStep, Panel.transmit, call.run_eq, setColon_colon]

/-- A call is one request to the cached register of its display, and none to
the other. -/
theorem panelStep_colon (past : UInt8 → UInt16) (p : Panel) (call : DisplayCall) (bus : Bus)
    (address : DisplayAddress) : (panelStep past p (call, bus)).colon address =
      if call.address = address then
        (p.colon address).request call.colonType.value
          (bus.arrives (displayWrites (call.digitEffects past)).length)
      else p.colon address := by
  unfold Panel.colon
  rw [panelStep_cached, panelStep_held]
  by_cases haddress : call.address = address
  · subst haddress
    by_cases hsame : p.driver.colon call.address = call.colonType.value
    · simp [CachedRegister.request, hsame]
    · simp [CachedRegister.request, hsame]
  · simp [haddress]

/-- The type asked for last on a display; `seven_segment_init` asks for none. -/
def lastColonType (address : DisplayAddress) (calls : List DisplayCall) : ColonType :=
  ((calls.filter (·.address = address)).getLast?.map DisplayCall.colonType).getD .none

theorem lastColonType_concat (address : DisplayAddress) (calls : List DisplayCall)
    (call : DisplayCall) : lastColonType address (calls ++ [call]) =
      if call.address = address then call.colonType else lastColonType address calls := by
  unfold lastColonType
  split
  case isTrue haddress => simp [haddress]
  case isFalse haddress => simp [haddress]

theorem ColonType.value_injective : Function.Injective ColonType.value := by
  intro a b h
  cases a <;> cases b <;> first | rfl | cases h

theorem panelRun_concat (past : UInt8 → UInt16) (p : Panel) (calls : List (DisplayCall × Bus))
    (call : DisplayCall × Bus) :
    panelRun past p (calls ++ [call]) = panelStep past (panelRun past p calls) call :=
  List.foldl_concat ..

theorem panelBoot_cached (bus : Bus) (registers : DisplayAddress × UInt8 → UInt8)
    (address : DisplayAddress) : (panelBoot bus registers).driver.colon address = 0 := by
  obtain ⟨_, rfl | rfl⟩ := address <;> rfl

/-- Whatever is lost, the driver takes the colon to be the one it was asked for last. -/
theorem panelRun_cached (past : UInt8 → UInt16) (bus : Bus)
    (registers : DisplayAddress × UInt8 → UInt8) (calls : List (DisplayCall × Bus))
    (address : DisplayAddress) :
    (panelRun past (panelBoot bus registers) calls).driver.colon address =
      (lastColonType address (calls.map (·.1))).value := by
  induction calls using List.reverseRecOn with
  | nil => exact panelBoot_cached bus registers address
  | append_singleton calls call ih =>
    rw [panelRun_concat, panelStep_cached, ih, List.map_append, List.map_singleton,
      lastColonType_concat]
    split <;> rfl

/-- After any run with any losses, a call whose writes all arrive leaves its
colon on the display exactly when the driver is asked for a new one, or the
display shows it anyway. -/
theorem panelRun_colon_iff (past : UInt8 → UInt16) (bootBus bus : Bus)
    (registers : DisplayAddress × UInt8 → UInt8) (calls : List (DisplayCall × Bus))
    (call : DisplayCall) (hbus : ∀ n, bus.arrives n = true) :
    (panelStep past (panelRun past (panelBoot bootBus registers) calls) (call, bus)).registers
        (call.address, 4) = call.colonType.value ↔
      lastColonType call.address (calls.map (·.1)) ≠ call.colonType ∨
      (panelRun past (panelBoot bootBus registers) calls).registers (call.address, 4) =
        call.colonType.value := by
  -- Of the run only the cache matters, which the losses do not reach.
  have hcached := panelRun_cached past bootBus registers calls call.address
  generalize panelRun past (panelBoot bootBus registers) calls = p at hcached
  have hstep : (panelStep past p (call, bus)).colon call.address =
      (p.colon call.address).request call.colonType.value true := by
    rw [panelStep_colon, if_pos rfl, hbus]
  calc (panelStep past p (call, bus)).registers (call.address, 4) = call.colonType.value
      ↔ ((p.colon call.address).request call.colonType.value true).held =
          call.colonType.value := by rw [← hstep]; rfl
    _ ↔ p.driver.colon call.address ≠ call.colonType.value ∨
          p.registers (call.address, 4) = call.colonType.value :=
        CachedRegister.held_request_iff
    _ ↔ _ := by rw [hcached, ColonType.value_injective.ne_iff]

/-- The colon of the clock is lost once, after its four digits, and the next
call leaves it out. -/
theorem panelRun_colon_stale :
    let call := DisplayCall.setNumbers .time 30 0 .colon
    let p := panelRun (fun _ => 0) (panelBoot .clear fun _ => 0) [(call, fun n _ => n ≠ 4)]
    (panelStep (fun _ => 0) p (call, .clear)).registers (.time, 4) ≠ ColonType.colon.value := by
  decide

/-- What `panelRun_colon_iff` says of a call for another colon. -/
theorem panelRun_colon_changed :
    let p := panelRun (fun _ => 0) (panelBoot .clear fun _ => 0)
      [(.setNumbers .time 30 0 .colon, fun n _ => n ≠ 4)]
    (panelStep (fun _ => 0) p (.blankDigits .time, .clear)).registers (.time, 4) = 0 :=
  (panelRun_colon_iff (fun _ => 0) .clear .clear (fun _ => 0)
    [(.setNumbers .time 30 0 .colon, fun n _ => n ≠ 4)] (.blankDigits .time)
    Bus.clear_arrives).mpr (.inl (by decide))

-- ---------------------------------------------------------------------------
-- Without losses
-- ---------------------------------------------------------------------------

theorem panelStep_agrees {past : UInt8 → UInt16} {p : Panel} {call : DisplayCall} {bus : Bus}
    {address : DisplayAddress} (h : (p.colon address).Agrees)
    (hbus : bus.arrives (displayWrites (call.digitEffects past)).length = true) :
    ((panelStep past p (call, bus)).colon address).Agrees := by
  rw [panelStep_colon]
  split
  · rw [hbus]
    exact h.request _
  · exact h

/-- A cache that is right puts every colon on the display. -/
theorem panelStep_colon_shown {past : UInt8 → UInt16} {p : Panel} {call : DisplayCall} {bus : Bus}
    (h : (p.colon call.address).Agrees)
    (hbus : bus.arrives (displayWrites (call.digitEffects past)).length = true) :
    (panelStep past p (call, bus)).registers (call.address, 4) = call.colonType.value := by
  have hstep := panelStep_colon past p call bus call.address
  rw [if_pos rfl, hbus] at hstep
  rw [← h.held_request call.colonType.value, ← hstep]
  rfl

theorem panelBoot_agrees {bus : Bus} (registers : DisplayAddress × UInt8 → UInt8)
    (hbus : ∀ n, bus.arrives n = true) (address : DisplayAddress) :
    ((panelBoot bus registers).colon address).Agrees := by
  have hheld : (panelBoot bus registers).registers (address, 4) = 0 := by
    simp only [panelBoot, Panel.transmit, storeAll_apply, delivered_of_forall hbus]
    obtain ⟨_, rfl | rfl⟩ := address <;> rfl
  exact (panelBoot_cached bus registers address).trans hheld.symm

/-- As long as no colon is lost the cache is right about it. -/
theorem panelRun_agrees {past : UInt8 → UInt16} {bootBus : Bus}
    (registers : DisplayAddress × UInt8 → UInt8) (hboot : ∀ n, bootBus.arrives n = true)
    {calls : List (DisplayCall × Bus)}
    (hcalls : ∀ call ∈ calls,
      call.2.arrives (displayWrites (call.1.digitEffects past)).length = true)
    (address : DisplayAddress) :
    ((panelRun past (panelBoot bootBus registers) calls).colon address).Agrees := by
  induction calls using List.reverseRecOn with
  | nil => exact panelBoot_agrees registers hboot address
  | append_singleton calls call ih =>
    obtain ⟨hpast, hlast⟩ := List.forall_mem_append.mp hcalls
    rw [panelRun_concat]
    exact panelStep_agrees (ih hpast) (hlast call List.mem_cons_self)

end WaterBall
