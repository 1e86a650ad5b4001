import WaterBall.Game.DeviceLaws

/-!
# When the water runs

The water is on while `BSP_LED_3` is off. The verdict on a lost game switches
it on, and both ways out of the water phase that the device has itself go
through the stop of the game, which switches it off. A peer's game state is a
third way, and one of the two that a peer sends does not.
-/

namespace WaterBall

open Support

/-- The water runs in its phase and until the stop that follows. -/
def Device.Contained (d : Device) : Prop :=
  d.led3 = false → d.game.gameState = .water ∨ d.game.gameState = .init

instance (d : Device) : Decidable d.Contained := inferInstanceAs (Decidable (_ → _))

/-- A peer with this firmware indicates two of the states. -/
def PeerSends (d : Device) : DeviceEvent → Prop
  | .ble evt _ => ∀ data ∈ d.client.stateIndication evt,
      data = indicated .init ∨ data = indicated .initializingGame
  | _ => True

/-- No peer starts a game while the water is on. -/
def StartsDry (d : Device) : DeviceEvent → Prop
  | .ble evt _ => d.client.stateIndication evt = some (indicated .initializingGame) → d.led3 = true
  | _ => True

instance (d : Device) : DecidablePred (PeerSends d)
  | .ble .. => Option.decidableForallMem _
  | .button .. | .gameTasks _ | .serviceTasks | .setMyScore _ | .incrementMyScore _
  | .tryConnect => isTrue trivial

instance (d : Device) : DecidablePred (StartsDry d)
  | .ble .. => inferInstanceAs (Decidable (_ → _))
  | .button .. | .gameTasks _ | .serviceTasks | .setMyScore _ | .incrementMyScore _
  | .tryConnect => isTrue trivial

-- ---------------------------------------------------------------------------
-- Steps
-- ---------------------------------------------------------------------------

theorem Device.Contained.of_led3 (h : d.led3 = true) : Device.Contained d := by
  intro hoff
  cases h.symm.trans hoff

theorem Device.Contained.of_state (h : d.game.gameState = .water ∨ d.game.gameState = .init) :
    Device.Contained d := fun _ => h

theorem Device.Contained.led3_of_ne (hd : Device.Contained d) (hwater : d.game.gameState ≠ .water)
    (hinit : d.game.gameState ≠ .init) : d.led3 = true := by
  cases hled : d.led3 with
  | true => rfl
  | false =>
    rcases hd hled with h | h
    · exact absurd h hwater
    · exact absurd h hinit

theorem Device.Contained.setMyScore (hd : Device.Contained d) (score : UInt32) :
    (gameSetMyScore d score).1.Contained := by
  intro hoff
  rw [gameSetMyScore_led3] at hoff
  rw [gameSetMyScore_game]
  exact hd hoff

theorem Device.Contained.button (hd : Device.Contained d) (pin : Button) (action : ButtonAction) :
    (gameEventHandler d pin action).1.Contained := by
  have hstart : d.game.gameState = .waiting → d.led3 = true := fun h =>
    hd.led3_of_ne (by rw [h]; decide) (by rw [h]; decide)
  unfold gameEventHandler
  split
  · exact hd
  cases pin with
  | button1 => exact hd
  | button2 =>
    dsimp only
    split
    case isTrue h => exact .of_led3 (hstart h)
    case isFalse => exact .of_state (.inr rfl)
  | button3 =>
    dsimp only
    split
    · exact hd.setMyScore _
    · exact hd
  | button4 =>
    dsimp only
    split
    case isTrue h => exact .of_led3 (hstart h.1)
    split
    · exact hd.setMyScore _
    · exact .of_state (.inr rfl)

theorem Device.Contained.turn (hd : Device.Contained d) (h : GameTurn d d' calls) :
    d'.Contained := by
  cases h with
  | stop => exact .of_led3 rfl
  | begin ticks hstate hset =>
    have hon : d.led3 = true := hd.led3_of_ne (by rw [hstate]; decide) (by rw [hstate]; decide)
    have hled := gameSetMyScore_led3
      { d with game.theirScore := d.theirView, game.gameInitTicks := ticks } 0
    rw [hset] at hled
    exact .of_led3 (hled.trans hon)
  | countDown ms state hstate =>
    exact .of_led3 (hd.led3_of_ne (by rw [hstate]; decide) (by rw [hstate]; decide))
  | play ticks hstate =>
    exact .of_led3 (hd.led3_of_ne (by rw [hstate]; decide) (by rw [hstate]; decide))
  | score ms state hstate =>
    exact .of_led3 (hd.led3_of_ne (by rw [hstate]; decide) (by rw [hstate]; decide))
  | verdict => exact .of_state (.inl rfl)
  | dry => exact .of_state (.inr rfl)
  | wait => exact hd

theorem Device.Contained.ble (hd : Device.Contained d) (hpeer : PeerSends d (.ble evt uninit))
    (hdry : StartsDry d (.ble evt uninit))
    (h : serviceOnBleEvt uninit d evt = some (d', calls)) : d'.Contained := by
  rcases serviceOnBleEvt_state h with ⟨-, client, server, rfl⟩ |
    ⟨data, state, client, server, hdata, hcopy, rfl⟩
  · exact hd
  rcases hpeer data hdata with rfl | rfl
  · rw [indicated, copyToWord_wordBytes] at hcopy
    cases hcopy
    exact .of_state (.inr rfl)
  · exact .of_led3 (hdry hdata)

theorem Device.Contained.step (hd : Device.Contained d) (hpeer : PeerSends d event)
    (hdry : StartsDry d event) (h : deviceStep t d event = some (d', calls)) : d'.Contained := by
  cases event with
  | button pin action => exact Runs.state_of_result h (hd.button pin action)
  | gameTasks now => exact Runs.state_of_result h (hd.turn (gameTasks_turn t d now))
  | serviceTasks => exact Runs.state_of_result h hd
  | setMyScore score => exact Runs.state_of_result h (hd.setMyScore score)
  | incrementMyScore points => exact Runs.state_of_result h (hd.setMyScore _)
  | tryConnect => exact Runs.state_of_result h hd
  | ble evt uninit => exact hd.ble hpeer hdry h

-- ---------------------------------------------------------------------------
-- Runs
-- ---------------------------------------------------------------------------

/-- From the boot on, whatever the order of the events. -/
theorem device_water_contained (t : AppTimer) (valueHandles : List UInt16)
    (events : List DeviceEvent) (d : Device) (calls : List DeviceCall)
    (hevents : Runs.Guarded (deviceStep t) (fun d event => PeerSends d event ∧ StartsDry d event)
      (deviceBoot valueHandles) events)
    (hrun : Runs.run (deviceStep t) (deviceBoot valueHandles) events = some (d, calls)) :
    d.led3 = false → d.game.gameState = .water ∨ d.game.gameState = .init :=
  hevents.keeps (P := Device.Contained)
    (fun _ _ _ _ hd hevent hstep => hd.step hevent.1 hevent.2 hstep) (.of_state (.inr rfl)) hrun

-- ---------------------------------------------------------------------------
-- A game that starts in the rain
-- ---------------------------------------------------------------------------

def lostGame : List DeviceEvent :=
  [.gameTasks ⟨0, 0⟩, .button .button2 .push, .gameTasks ⟨0, 0⟩, .gameTasks ⟨163840, 163840⟩,
    .gameTasks ⟨163840, 163840⟩, .gameTasks ⟨2129920, 2129920⟩, .gameTasks ⟨2129921, 2129921⟩]

theorem device_water_contained_lostGame :
    ∃ d calls, Runs.run (deviceStep appTimerSdk) (deviceBoot []) lostGame = some (d, calls) ∧
      d.led3 = false ∧ (d.game.gameState = .water ∨ d.game.gameState = .init) := by
  have hrun : (Runs.run (deviceStep appTimerSdk) (deviceBoot []) lostGame).isSome := by
    decide +kernel
  obtain ⟨⟨d, calls⟩, h⟩ := Option.isSome_iff_exists.mp hrun
  have hled : ∀ r ∈ Runs.run (deviceStep appTimerSdk) (deviceBoot []) lostGame,
      r.1.led3 = false := by decide +kernel
  have hoff := hled (d, calls) h
  exact ⟨d, calls, h, hoff, device_water_contained appTimerSdk [] lostGame d calls
    (by decide +kernel) h hoff⟩

/-- The lost game on a device that knows its peer's handles, and the peer
starts the next one in the water phase. -/
def startInTheRain : List DeviceEvent :=
  let info : ServiceInfo := ⟨0x14, 0x17, 0x19, 0x1C, 0x1F, 0x21, 0x23, 0x25⟩
  [.ble (.gapConnected 0) 0, .ble (.gattcPrimSrvcDiscRsp .success [0x10]) 0,
    .ble (.gattcReadRsp 0x12 0 info.bytes) 0] ++ lostGame ++
  [.ble (.gattcHvx 0x19 .indication (indicated .initializingGame)) 0, .gameTasks ⟨2129922, 2129922⟩]

theorem device_water_contained_startInTheRain :
    Runs.Guarded (deviceStep appTimerSdk) PeerSends (deviceBoot []) startInTheRain ∧
      ∃ d calls,
        Runs.run (deviceStep appTimerSdk) (deviceBoot []) startInTheRain = some (d, calls) ∧
        d.led3 = false ∧ d.game.gameState = .countingDown := by
  refine ⟨by decide +kernel, ?_⟩
  have hrun : (Runs.run (deviceStep appTimerSdk) (deviceBoot []) startInTheRain).isSome := by
    decide +kernel
  obtain ⟨⟨d, calls⟩, h⟩ := Option.isSome_iff_exists.mp hrun
  have hend : ∀ r ∈ Runs.run (deviceStep appTimerSdk) (deviceBoot []) startInTheRain,
      r.1.led3 = false ∧ r.1.game.gameState = .countingDown := by decide +kernel
  exact ⟨d, calls, h, hend (d, calls) h⟩

end WaterBall
