import WaterBall.Support.Runs
import WaterBall.Service.ClientLaws
import WaterBall.Game.Device

/-!
# What the functions of a device leave alone

The score functions change the score, the copy of it that the server keeps,
and nothing else. A turn of the game does one of eight things. Events of the
SoftDevice reach the game only as a state that a peer sends.
-/

namespace WaterBall

open Support

-- ---------------------------------------------------------------------------
-- Scores
-- ---------------------------------------------------------------------------

section
variable (d : Device) (score : UInt32)

theorem gameSetMyScore_eq : ∃ serverScore,
    (gameSetMyScore d score).1 =
      { d with game.myScore := score, server.serverScore := serverScore } := by
  unfold gameSetMyScore
  dsimp only
  split
  · exact ⟨score, rfl⟩
  split
  · exact ⟨d.server.serverScore, rfl⟩
  · exact ⟨d.server.serverScore, rfl⟩

@[simp] theorem gameSetMyScore_game :
    (gameSetMyScore d score).1.game = { d.game with myScore := score } := by
  obtain ⟨serverScore, h⟩ := gameSetMyScore_eq d score
  rw [h]

@[simp] theorem gameSetMyScore_led3 : (gameSetMyScore d score).1.led3 = d.led3 := by
  obtain ⟨serverScore, h⟩ := gameSetMyScore_eq d score
  rw [h]

@[simp] theorem gameSetMyScore_client : (gameSetMyScore d score).1.client = d.client := by
  obtain ⟨serverScore, h⟩ := gameSetMyScore_eq d score
  rw [h]

end

def incremented (score points : UInt32) : UInt32 :=
  if maxScore - score > points then score + points else maxScore

theorem gameIncrementMyScore_eq (d : Device) (points : UInt32) :
    gameIncrementMyScore d points = gameSetMyScore d (incremented d.game.myScore points) := rfl

theorem le_incremented (score points : UInt32) : score ≤ incremented score points := by
  have hmax : score.toNat ≤ maxScore.toNat := Nat.le_of_lt_succ score.toNat_lt
  have hsub : (maxScore - score).toNat = maxScore.toNat - score.toNat :=
    UInt32.toNat_sub_of_le maxScore score (UInt32.le_iff_toNat_le.mpr hmax)
  unfold incremented
  split
  case isTrue h =>
    have hlt := UInt32.lt_iff_toNat_lt.mp h
    rw [hsub] at hlt
    rw [UInt32.le_iff_toNat_le, UInt32.toNat_add, Nat.mod_eq_of_lt]
    · exact Nat.le_add_right _ _
    · exact Nat.lt_of_lt_of_le (Nat.add_lt_of_lt_sub' hlt) (Nat.le_succ _)
  case isFalse => exact UInt32.le_iff_toNat_le.mpr hmax

theorem gameEventHandler_cases (d : Device) (pin : Button) (action : ButtonAction) :
    (∃ state, (state = d.game.gameState ∨ state = .init ∨
        state = .initializingGame ∧ d.game.gameState = .waiting) ∧
      gameEventHandler d pin action = ({ d with game.gameState := state }, [])) ∨
    d.game.gameState = .playing ∧
      ∃ score, gameEventHandler d pin action = gameSetMyScore d score := by
  unfold gameEventHandler
  split
  · exact .inl ⟨_, .inl rfl, rfl⟩
  cases pin with
  | button1 => exact .inl ⟨_, .inl rfl, rfl⟩
  | button2 =>
    dsimp only
    split
    case isTrue hwaiting => exact .inl ⟨_, .inr (.inr ⟨rfl, hwaiting⟩), rfl⟩
    case isFalse => exact .inl ⟨_, .inr (.inl rfl), rfl⟩
  | button3 =>
    dsimp only
    split
    case isTrue hplaying => exact .inr ⟨hplaying, _, rfl⟩
    case isFalse => exact .inl ⟨_, .inl rfl, rfl⟩
  | button4 =>
    dsimp only
    split
    case isTrue hwaiting => exact .inl ⟨_, .inr (.inr ⟨rfl, hwaiting.1⟩), rfl⟩
    split
    case isTrue hplaying => exact .inr ⟨hplaying, _, rfl⟩
    case isFalse => exact .inl ⟨_, .inr (.inl rfl), rfl⟩

/-- A game state as it goes over the air. -/
def indicated (state : GameState) : List UInt8 := LittleEndian.wordBytes state.value.toUInt32

-- ---------------------------------------------------------------------------
-- Turns of the game
-- ---------------------------------------------------------------------------

/-- The score that the device takes for its peer's. -/
def Device.theirView (d : Device) : UInt32 := (gameGetTheirScore d).1

/-- What one turn of the game does, by the state it starts in. -/
inductive GameTurn (d : Device) : Device → List DeviceCall → Prop
  | stop (hstate : d.game.gameState = .init) :
      GameTurn d
        { d with game.theirScore := d.theirView, game.gameState := .waiting, led3 := true }
        (gameIndicateState d .init ++
          [.sevenSegmentBlankDigits timeAddress, .sevenSegmentBlankDigits scoreAddress])
  | begin (ticks : UInt32) (hstate : d.game.gameState = .initializingGame)
      (hset : gameSetMyScore
        { d with game.theirScore := d.theirView, game.gameInitTicks := ticks } 0 = (d', calls)) :
      GameTurn d { d' with game.gameState := .countingDown }
        (gameIndicateState d .initializingGame ++ calls)
  | countDown (ms : UInt32) (state : GameState) (hstate : d.game.gameState = .countingDown)
      (hnext : state = .countingDown ∨ state = .start) :
      GameTurn d { d with game.theirScore := d.theirView, game.gameState := state }
        (gamePrintStart ms)
  | play (ticks : UInt32) (hstate : d.game.gameState = .start) :
      GameTurn d
        { d with
          game.theirScore := d.theirView
          game.gameStartTicks := ticks
          game.gameState := .playing } []
  | score (ms : UInt32) (state : GameState) (hstate : d.game.gameState = .playing)
      (hnext : state = .playing ∨ state = .gameOver) :
      GameTurn d { d with game.theirScore := d.theirView, game.gameState := state }
        (gamePrintTime ms .auto ++ gamePrintScore d.game.myScore d.theirView)
  | verdict (ticks : UInt32) (led3 : Bool) (hstate : d.game.gameState = .gameOver)
      (hled : led3 = if d.game.myScore ≥ d.theirView then false else d.led3) :
      GameTurn d
        { d with
          game.theirScore := d.theirView
          game.waterStartTicks := ticks
          game.gameState := .water
          led3 } (gamePrintEnd d.game.myScore d.theirView)
  | dry (hstate : d.game.gameState = .water) :
      GameTurn d
        { d with game.theirScore := d.theirView, game.gameState := .init, led3 := true } []
  | wait (hstate : d.game.gameState ≠ .init ∧ d.game.gameState ≠ .initializingGame ∧
        d.game.gameState ≠ .gameOver) :
      GameTurn d { d with game.theirScore := d.theirView } []

theorem gameGetTheirScore_eq (d : Device) :
    gameGetTheirScore d = (d.theirView, { d with game.theirScore := d.theirView }) := rfl

theorem theirView_eq (d : Device) : d.theirView =
    if serviceServerIsConnected d.server then d.server.clientScore
    else if serviceClientIsConnected d.client then d.client.serverScore
    else d.game.theirScore := rfl

theorem theirView_refreshed {d d' : Device} (hserver : d'.server = d.server)
    (hclient : d'.client = d.client) (hscore : d'.game.theirScore = d.theirView) :
    d'.theirView = d.theirView := by
  rw [theirView_eq d', hserver, hclient, hscore, theirView_eq d]
  cases serviceServerIsConnected d.server <;> cases serviceClientIsConnected d.client <;> rfl

theorem gameTasks_turn (t : AppTimer) (d : Device) (now : Readings) :
    GameTurn d (gameTasks t d now).1 (gameTasks t d now).2 := by
  unfold gameTasks
  rw [gameGetTheirScore_eq]
  dsimp only [gameGetMyScore]
  split
  case h_1 hstate => exact .stop hstate
  case h_2 hstate => exact .begin now.first hstate rfl
  case h_3 hstate =>
    split
    · exact .countDown _ .start hstate (.inr rfl)
    · exact hstate ▸ .countDown _ .countingDown hstate (.inl rfl)
  case h_4 hstate => exact .play now.first hstate
  case h_5 hstate =>
    split
    · split
      · exact .score _ .gameOver hstate (.inr rfl)
      · exact .score _ .gameOver hstate (.inr rfl)
    · split
      · exact .score _ .gameOver hstate (.inr rfl)
      · exact hstate ▸ .score _ .playing hstate (.inl rfl)
  case h_6 hstate =>
    split
    case isTrue hlost => exact .verdict now.first false hstate (if_pos hlost).symm
    case isFalse hwon => exact .verdict now.first d.led3 hstate (if_neg hwon).symm
  case h_7 hstate =>
    split
    · exact .dry hstate
    · exact .wait (by rw [hstate]; decide)
  case h_8 hinit hbegin _ _ _ hover _ => exact .wait ⟨hinit, hbegin, hover⟩

-- ---------------------------------------------------------------------------
-- Events of the SoftDevice
-- ---------------------------------------------------------------------------

theorem gameTakeState_eq (d : Device) (calls : List ClientCall) :
    gameTakeState d calls = ((calls.filterMap ClientCall.stateSet).getLast?).elim d
      (gameSetState d) := by
  induction calls generalizing d with
  | nil => rfl
  | cons call calls ih =>
    cases call with
    | gameSetState state =>
      have hcons : gameTakeState d (.gameSetState state :: calls) =
          gameTakeState (gameSetState d state) calls := rfl
      have hset : (ClientCall.gameSetState state :: calls).filterMap ClientCall.stateSet =
          state :: calls.filterMap ClientCall.stateSet := rfl
      rw [hcons, ih, hset, List.getLast?_cons]
      cases (calls.filterMap ClientCall.stateSet).getLast? <;> rfl
    | _ => exact ih d

theorem gameTakeState_myScore (d : Device) (calls : List ClientCall) :
    (gameTakeState d calls).game.myScore = d.game.myScore := by
  rw [gameTakeState_eq]
  cases (calls.filterMap ClientCall.stateSet).getLast? <;> rfl

theorem serviceOnBleEvt_ends (h : serviceOnBleEvt uninit d evt = some (d', calls)) :
    ∃ client clientCalls server serverCalls,
      serviceClientOnBleEvt uninit d.client evt = some (client, clientCalls) ∧
      serviceServerOnBleEvt d.server evt = some (server, serverCalls) ∧
      d' = { gameTakeState d clientCalls with client, server } ∧
      calls = clientCalls.map .client ++ serverCalls.map .server := by
  simp only [serviceOnBleEvt, Option.bind_eq_bind, Option.bind_eq_some_iff, Option.pure_def] at h
  obtain ⟨⟨client, clientCalls⟩, hclient, ⟨server, serverCalls⟩, hserver, h⟩ := h
  cases h
  have hframe : ∀ d : Device, (gameTakeState { d with client } clientCalls).server = d.server ∧
      { gameTakeState { d with client } clientCalls with server } =
        { gameTakeState d clientCalls with client, server } := by
    intro d
    simp only [gameTakeState_eq]
    cases (clientCalls.filterMap ClientCall.stateSet).getLast? <;> exact ⟨rfl, rfl⟩
  rw [(hframe d).1] at hserver
  exact ⟨client, clientCalls, server, serverCalls, hclient, hserver, (hframe d).2, rfl⟩

/-- Only the indication of a game state changes more than the service. -/
theorem serviceOnBleEvt_state (h : serviceOnBleEvt uninit d evt = some (d', calls)) :
    (d.client.stateIndication evt = none ∧ ∃ client server, d' = { d with client, server }) ∨
      ∃ data state client server, d.client.stateIndication evt = some data ∧
        copyToWord uninit 0 data = some state ∧
        d' = { gameSetState d state with client, server } := by
  obtain ⟨client, clientCalls, server, serverCalls, hclient, -, rfl, -⟩ := serviceOnBleEvt_ends h
  rw [gameTakeState_eq]
  rcases serviceClientOnBleEvt_stateSet hclient with
    ⟨hnone, hset⟩ | ⟨data, state, hdata, hcopy, hset⟩
  · rw [hset]
    exact .inl ⟨hnone, client, server, rfl⟩
  · rw [hset]
    exact .inr ⟨data, state, client, server, hdata, hcopy, rfl⟩

end WaterBall
