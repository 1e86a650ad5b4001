import WaterBall.Game.DeviceLaws

/-!
# The order of the game states

A device starts a game with a reset of its score and a countdown. Its own steps
keep that order. The state that a peer sends is copied into a word of the
stack, whatever its length, and taken whatever it is.
-/

namespace WaterBall

open Support

-- ---------------------------------------------------------------------------
-- Moves of the state
-- ---------------------------------------------------------------------------

def localStates : List GameState :=
  [.init, .waiting, .initializingGame, .countingDown, .start, .playing, .gameOver, .water]

/-- States that nothing has to come before. -/
def restStates : List GameState := [.init, .waiting, .initializingGame, .gameOver, .water]

/-- What a step of the device does to the state of its game. -/
inductive StateMove (t : AppTimer) (d : Device) : DeviceEvent → Device → Prop
  | stay (hstate : d'.game.gameState = d.game.gameState)
      (hticks : d'.game.gameInitTicks = d.game.gameInitTicks) : StateMove t d event d'
  | rest (hstate : d'.game.gameState ∈ restStates) : StateMove t d event d'
  | begin (now : Readings) (hstate : d.game.gameState = .initializingGame)
      (hnext : d'.game.gameState = .countingDown) (hscore : d'.game.myScore = 0)
      (hticks : d'.game.gameInitTicks = now.first) : StateMove t d (.gameTasks now) d'
  | expire (now : Readings) (hstate : d.game.gameState = .countingDown)
      (hpassed : clockTicksHavePassed t now.second d.game.gameInitTicks (clockMsInTicks t 5000) =
        true)
      (hnext : d'.game.gameState = .start) : StateMove t d (.gameTasks now) d'
  | play (now : Readings) (hstate : d.game.gameState = .start)
      (hnext : d'.game.gameState = .playing) : StateMove t d (.gameTasks now) d'
  | peer (hdata : d.client.stateIndication evt = some data)
      (hcopy : copyToWord uninit 0 data = some state)
      (hnext : d'.game.gameState = .ofValue state.toUInt8)
      (hticks : d'.game.gameInitTicks = d.game.gameInitTicks) : StateMove t d (.ble evt uninit) d'

theorem gameTasks_move (t : AppTimer) (d : Device) (now : Readings) :
    StateMove t d (.gameTasks now) (gameTasks t d now).1 := by
  unfold gameTasks
  rw [gameGetTheirScore_eq]
  dsimp only [gameGetMyScore]
  split
  case h_1 => exact .rest (by simp [restStates])
  case h_2 hstate => exact .begin now hstate rfl (by simp) (by simp)
  case h_3 hstate =>
    split
    case isTrue hpassed => exact .expire now hstate hpassed rfl
    case isFalse => exact .stay rfl rfl
  case h_4 hstate => exact .play now hstate rfl
  case h_5 hstate =>
    split
    · split
      · exact .rest (by simp [restStates])
      · exact .rest (by simp [restStates])
    · split
      · exact .rest (by simp [restStates])
      · exact .stay rfl rfl
  case h_6 =>
    split
    · exact .rest (by simp [restStates])
    · exact .rest (by simp [restStates])
  case h_7 =>
    split
    · exact .rest (by simp [restStates])
    · exact .stay rfl rfl
  case h_8 => exact .stay rfl rfl

theorem gameEventHandler_move (t : AppTimer) (d : Device) (pin : Button) (action : ButtonAction) :
    StateMove t d (.button pin action) (gameEventHandler d pin action).1 := by
  unfold gameEventHandler
  split
  · exact .stay rfl rfl
  cases pin with
  | button1 => exact .stay rfl rfl
  | button2 =>
    dsimp only
    split
    · exact .rest (by simp [restStates])
    · exact .rest (by simp [restStates])
  | button3 =>
    dsimp only
    split
    · exact .stay (by simp [gameIncrementMyScore_eq]) (by simp [gameIncrementMyScore_eq])
    · exact .stay rfl rfl
  | button4 =>
    dsimp only
    split
    · exact .rest (by simp [restStates])
    split
    · exact .stay (by simp) (by simp)
    · exact .rest (by simp [restStates])

theorem deviceStep_move (h : deviceStep t d event = some (d', calls)) : StateMove t d event d' := by
  cases event with
  | button pin action => exact Runs.state_of_result h (gameEventHandler_move t d pin action)
  | gameTasks now => exact Runs.state_of_result h (gameTasks_move t d now)
  | serviceTasks => exact Runs.state_of_result h (.stay rfl rfl)
  | setMyScore score => exact Runs.state_of_result h (.stay (by simp) (by simp))
  | incrementMyScore points =>
    exact Runs.state_of_result h
      (.stay (by simp [gameIncrementMyScore_eq]) (by simp [gameIncrementMyScore_eq]))
  | tryConnect => exact Runs.state_of_result h (.stay rfl rfl)
  | ble evt uninit =>
    rcases serviceOnBleEvt_state h with
      ⟨-, client, server, rfl⟩ | ⟨data, state, client, server, hdata, hcopy, rfl⟩
    · exact .stay rfl rfl
    · exact .peer hdata hcopy rfl rfl

-- ---------------------------------------------------------------------------
-- How a game begins
-- ---------------------------------------------------------------------------

/-- How far a game is. -/
inductive GameStage
  | counting
  | counted
  | playing
  deriving DecidableEq, Repr

/-- A run from `start` that ends within a game: a turn in INITIALIZING_GAME has
reset the score at the reading `ticks`, the turns since then have counted down
from there, and only then has the device been playing. -/
inductive GameBegun (t : AppTimer) (start : Device) (ticks : UInt32) :
    GameStage → List DeviceEvent → Device → Prop
  | begin (now : Readings) (hrun : Runs.run (deviceStep t) start events = some (d, past))
      (hstate : d.game.gameState = .initializingGame)
      (hstep : deviceStep t d (.gameTasks now) = some (d', calls))
      (hscore : d'.game.myScore = 0) (hticks : now.first = ticks)
      (hnext : d'.game.gameState = .countingDown) :
      GameBegun t start ticks .counting (events ++ [.gameTasks now]) d'
  | count (hbegun : GameBegun t start ticks .counting events d)
      (hstep : deviceStep t d event = some (d', calls))
      (hnext : d'.game.gameState = .countingDown) :
      GameBegun t start ticks .counting (events ++ [event]) d'
  | expire (now : Readings) (hbegun : GameBegun t start ticks .counting events d)
      (hstep : deviceStep t d (.gameTasks now) = some (d', calls))
      (hpassed : clockTicksHavePassed t now.second ticks (clockMsInTicks t 5000) = true)
      (hnext : d'.game.gameState = .start) :
      GameBegun t start ticks .counted (events ++ [.gameTasks now]) d'
  | ready (hbegun : GameBegun t start ticks .counted events d)
      (hstep : deviceStep t d event = some (d', calls))
      (hnext : d'.game.gameState = .countingDown ∨ d'.game.gameState = .start) :
      GameBegun t start ticks .counted (events ++ [event]) d'
  | play (hbegun : GameBegun t start ticks .counted events d)
      (hstep : deviceStep t d event = some (d', calls))
      (hnext : d'.game.gameState = .playing) :
      GameBegun t start ticks .playing (events ++ [event]) d'
  | playOn (hbegun : GameBegun t start ticks .playing events d)
      (hstep : deviceStep t d event = some (d', calls))
      (hnext : d'.game.gameState = .playing) :
      GameBegun t start ticks .playing (events ++ [event]) d'

/-- The state is one of the device's own, and a device that plays has begun the
game in order. -/
structure InOrder (t : AppTimer) (start : Device) (events : List DeviceEvent) (d : Device) :
    Prop where
  states : d.game.gameState ∈ localStates
  playing : d.game.gameState = .playing → ∃ ticks, GameBegun t start ticks .playing events d

-- ---------------------------------------------------------------------------
-- What a peer may send
-- ---------------------------------------------------------------------------

/-- The byte of a state indication that becomes the state; without a payload it
is what lies on the stack. -/
def stateByte (uninit : UInt32) (data : List UInt8) : UInt8 := data.headD uninit.toUInt8

/-- The state that the device has, one that nothing has to come before, or in
START the ones next to it. -/
def GameState.Admits (state : GameState) (byte : UInt8) : Prop :=
  byte = state.value ∨ byte ∈ restStates.map GameState.value ∨
    state = .start ∧ (byte = GameState.countingDown.value ∨ byte = GameState.playing.value)

/-- A state indication fits the variable that it is copied to, and the state
that it finds. -/
def PeerInOrder (d : Device) : DeviceEvent → Prop
  | .ble evt uninit => ∀ data ∈ d.client.stateIndication evt, data.length ≤ 4 ∧
      d.game.gameState.Admits (stateByte uninit data)
  | _ => True

instance (state : GameState) (byte : UInt8) : Decidable (state.Admits byte) :=
  inferInstanceAs (Decidable (_ ∨ _))

instance (d : Device) : DecidablePred (PeerInOrder d)
  | .ble .. => Option.decidableForallMem _
  | .button .. | .gameTasks _ | .serviceTasks | .setMyScore _ | .incrementMyScore _
  | .tryConnect => isTrue trivial

theorem copyToWord_stateByte (h : copyToWord uninit 0 data = some state) :
    state.toUInt8 = stateByte uninit data := by
  obtain ⟨bytes, hwrite, rfl⟩ := Option.map_eq_some_iff.mp h
  obtain ⟨-, rfl⟩ := Region.copy_eq_some.mp hwrite
  rw [Region.splice_zero]
  cases data with
  | nil => exact congrArg UInt32.toUInt8 (LittleEndian.word_wordBytes_self uninit)
  | cons byte data => exact LittleEndian.toUInt8_word byte _

theorem GameState.ofValue_value (h : state ∈ localStates) : ofValue state.value = state := by
  simp only [localStates, List.mem_cons, List.not_mem_nil, or_false] at h
  rcases h with rfl | rfl | rfl | rfl | rfl | rfl | rfl | rfl <;> rfl

-- ---------------------------------------------------------------------------
-- Steps
-- ---------------------------------------------------------------------------

theorem GameState.Admits.next {state : GameState} (h : state.Admits byte)
    (hlocal : state ∈ localStates) : ofValue byte = state ∨ ofValue byte ∈ restStates ∨
      state = .start ∧ (ofValue byte = .countingDown ∨ ofValue byte = .playing) := by
  rcases h with rfl | hrest | ⟨hstart, rfl | rfl⟩
  · exact .inl (ofValue_value hlocal)
  · obtain ⟨next, hmem, rfl⟩ := List.mem_map.mp hrest
    have hnext : ofValue next.value = next := ofValue_value (by
      revert next
      decide)
    exact .inr (.inl (by rwa [hnext]))
  · exact .inr (.inr ⟨hstart, .inl rfl⟩)
  · exact .inr (.inr ⟨hstart, .inr rfl⟩)

/-- What the run has to show for the state that it is in. -/
inductive Accounted (t : AppTimer) (start : Device) (events : List DeviceEvent) (d : Device) : Prop
  | rest (hstate : d.game.gameState ∈ restStates)
  | counting (hstate : d.game.gameState = .countingDown)
      (hbegun : GameBegun t start d.game.gameInitTicks .counting events d)
  | counted (ticks : UInt32) (hstate : d.game.gameState = .countingDown ∨ d.game.gameState = .start)
      (hbegun : GameBegun t start ticks .counted events d)
  | playing (ticks : UInt32) (hstate : d.game.gameState = .playing)
      (hbegun : GameBegun t start ticks .playing events d)

section
variable {t : AppTimer} {start d d' : Device} {events : List DeviceEvent} {event : DeviceEvent}
  {calls : List DeviceCall}

theorem Accounted.inOrder (h : Accounted t start events d) : InOrder t start events d := by
  cases h with
  | rest hstate =>
    refine ⟨?_, ?_⟩
    · revert hstate
      generalize d.game.gameState = state
      simp only [restStates, localStates, List.mem_cons, List.not_mem_nil, or_false]
      tauto
    · intro hplaying
      rw [hplaying] at hstate
      simp [restStates] at hstate
  | counting hstate =>
    refine ⟨by simp [hstate, localStates], fun hplaying => ?_⟩
    cases hstate.symm.trans hplaying
  | counted ticks hstate =>
    refine ⟨by rcases hstate with h | h <;> simp [h, localStates], fun hplaying => ?_⟩
    rcases hstate with h | h <;> cases h.symm.trans hplaying
  | playing ticks hstate hbegun =>
    exact ⟨by simp [hstate, localStates], fun _ => ⟨ticks, hbegun⟩⟩

theorem Accounted.of_countingDown (h : Accounted t start events d)
    (hstate : d.game.gameState = .countingDown) :
    GameBegun t start d.game.gameInitTicks .counting events d ∨
      ∃ ticks, GameBegun t start ticks .counted events d := by
  cases h with
  | rest hrest => simp [hstate, restStates] at hrest
  | counting _ hbegun => exact .inl hbegun
  | counted ticks _ hbegun => exact .inr ⟨ticks, hbegun⟩
  | playing _ hplaying => cases hstate.symm.trans hplaying

theorem Accounted.of_start (h : Accounted t start events d) (hstate : d.game.gameState = .start) :
    ∃ ticks, GameBegun t start ticks .counted events d := by
  cases h with
  | rest hrest => simp [hstate, restStates] at hrest
  | counting hcounting => cases hstate.symm.trans hcounting
  | counted ticks _ hbegun => exact ⟨ticks, hbegun⟩
  | playing _ hplaying => cases hstate.symm.trans hplaying

theorem Accounted.stay (h : Accounted t start events d)
    (hstep : deviceStep t d event = some (d', calls))
    (hstate : d'.game.gameState = d.game.gameState)
    (hticks : d'.game.gameInitTicks = d.game.gameInitTicks) :
    Accounted t start (events ++ [event]) d' := by
  cases h with
  | rest hrest => exact .rest (hstate ▸ hrest)
  | counting hcounting hbegun =>
    rw [← hticks] at hbegun
    exact .counting (hstate.trans hcounting) (.count hbegun hstep (hstate.trans hcounting))
  | counted ticks hcounted hbegun =>
    rw [← hstate] at hcounted
    exact .counted ticks hcounted (.ready hbegun hstep hcounted)
  | playing ticks hplaying hbegun =>
    exact .playing ticks (hstate.trans hplaying) (.playOn hbegun hstep (hstate.trans hplaying))

theorem Accounted.step (h : Accounted t start events d)
    (hrun : Runs.run (deviceStep t) start events = some (d, past)) (hpeer : PeerInOrder d event)
    (hstep : deviceStep t d event = some (d', calls)) :
    Accounted t start (events ++ [event]) d' := by
  cases deviceStep_move hstep with
  | stay hstate hticks => exact h.stay hstep hstate hticks
  | rest hstate => exact .rest hstate
  | begin now hstate hnext hscore hticks =>
    exact .counting hnext (.begin now hrun hstate hstep hscore hticks.symm hnext)
  | expire now hstate hpassed hnext =>
    rcases h.of_countingDown hstate with hbegun | ⟨ticks, hbegun⟩
    · exact .counted _ (.inr hnext) (.expire now hbegun hstep hpassed hnext)
    · exact .counted ticks (.inr hnext) (.ready hbegun hstep (.inr hnext))
  | play now hstate hnext =>
    obtain ⟨ticks, hbegun⟩ := h.of_start hstate
    exact .playing ticks hnext (.play hbegun hstep hnext)
  | peer hdata hcopy hnext hticks =>
    have hadmits := (hpeer _ hdata).2
    rw [copyToWord_stateByte hcopy] at hnext
    rcases hadmits.next h.inOrder.states with hstay | hrest | ⟨hstate, hback | hplay⟩
    · exact h.stay hstep (hnext.trans hstay) hticks
    · rw [← hnext] at hrest
      exact .rest hrest
    · obtain ⟨ticks, hbegun⟩ := h.of_start hstate
      have hcounted := hnext.trans hback
      exact .counted ticks (.inl hcounted) (.ready hbegun hstep (.inl hcounted))
    · obtain ⟨ticks, hbegun⟩ := h.of_start hstate
      exact .playing ticks (hnext.trans hplay) (.play hbegun hstep (hnext.trans hplay))

end

-- ---------------------------------------------------------------------------
-- Runs
-- ---------------------------------------------------------------------------

/-- From the boot on, whatever the order of the events, as long as the states
that the peer sends fit. -/
theorem device_states_inOrder (t : AppTimer) (valueHandles : List UInt16)
    (events : List DeviceEvent)
    (hpeer : Runs.Guarded (deviceStep t) PeerInOrder (deviceBoot valueHandles) events)
    (d : Device) (calls : List DeviceCall)
    (hrun : Runs.run (deviceStep t) (deviceBoot valueHandles) events = some (d, calls)) :
    InOrder t (deviceBoot valueHandles) events d := by
  have htracked := hpeer.history
    (P := fun events d => Accounted t (deviceBoot valueHandles) events d ∧
      ∃ past, Runs.run (deviceStep t) (deviceBoot valueHandles) events = some (d, past))
    ?_ [] ⟨.rest (by simp [deviceBoot, gameInit, restStates]), [], rfl⟩ hrun
  · exact htracked.1.inOrder
  · rintro d events event d' out ⟨haccounted, past, hpast⟩ hadmits hstep
    exact ⟨haccounted.step hpast hadmits hstep, _, Runs.run_concat hpast hstep⟩

def tableRead : List DeviceEvent :=
  let info : ServiceInfo := ⟨0x14, 0x17, 0x19, 0x1C, 0x1F, 0x21, 0x23, 0x25⟩
  [.ble (.gapConnected 0) 0, .ble (.gattcPrimSrvcDiscRsp .success [0x10]) 0,
    .ble (.gattcReadRsp 0x12 0 info.bytes) 0]

def peerGame : List DeviceEvent :=
  tableRead ++ [.ble (.gattcHvx 0x19 .indication (indicated .init)) 0, .gameTasks ⟨7, 7⟩,
    .ble (.gattcHvx 0x19 .indication (indicated .initializingGame)) 0, .gameTasks ⟨8, 8⟩,
    .gameTasks ⟨163848, 163848⟩, .gameTasks ⟨163849, 163849⟩]

theorem device_states_inOrder_peerGame : ∃ d calls ticks,
    Runs.run (deviceStep appTimerSdk) (deviceBoot []) peerGame = some (d, calls) ∧
      d.game.gameState = .playing ∧
      GameBegun appTimerSdk (deviceBoot []) ticks .playing peerGame d := by
  have hfinal : (Runs.run (deviceStep appTimerSdk) (deviceBoot []) peerGame).map
      (fun final => final.1.game.gameState) = some .playing := by
    decide +kernel
  obtain ⟨⟨d, calls⟩, hrun, hplaying⟩ := Option.map_eq_some_iff.mp hfinal
  obtain ⟨ticks, hbegun⟩ := (device_states_inOrder appTimerSdk [] peerGame (by decide +kernel) d
    calls hrun).playing hplaying
  exact ⟨d, calls, ticks, hrun, hplaying, hbegun⟩

/-- The peer sends the one named state that no device enters. -/
def peerWedge : List DeviceEvent :=
  tableRead ++ [.gameTasks ⟨7, 7⟩, .ble (.gattcHvx 0x19 .indication [3, 0, 0, 0]) 0]

theorem device_states_inOrder_peerWedge : ∃ d calls,
    Runs.run (deviceStep appTimerSdk) (deviceBoot []) peerWedge = some (d, calls) ∧
      d.game.gameState = .waitingToCountDown ∧
      ¬ InOrder appTimerSdk (deviceBoot []) peerWedge d := by
  have hfinal : (Runs.run (deviceStep appTimerSdk) (deviceBoot []) peerWedge).map
      (fun final => final.1.game.gameState) = some .waitingToCountDown := by
    decide +kernel
  obtain ⟨⟨d, calls⟩, hrun, hwedged⟩ := Option.map_eq_some_iff.mp hfinal
  refine ⟨d, calls, hrun, hwedged, fun horder => ?_⟩
  have hlocal := horder.states
  rw [show d.game.gameState = .waitingToCountDown from hwedged] at hlocal
  simp [localStates] at hlocal

end WaterBall
