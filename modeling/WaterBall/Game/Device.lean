import WaterBall.Display.SevenSegment
import WaterBall.Game.Clock
import WaterBall.Service.Server
import WaterBall.Service.Client

/-!
# The device

`game.c` and `service.c`, on the state of a whole device: the game with its
server and its client module, and the LED that switches the water. Every
function gives the calls it makes that leave the device.

`game_state_t` has eight bits on the target, so a state that a peer sends is
cut to them; values without a name are kept as they are.
-/

namespace WaterBall

open Support

-- ---------------------------------------------------------------------------
-- States and data
-- ---------------------------------------------------------------------------

inductive GameState
  | init
  | waiting
  | initializingGame
  | waitingToCountDown
  | countingDown
  | start
  | playing
  | gameOver
  | water
  | timeUp
  | maxScore
  | error
  | unnamed (raw : UInt8)
  deriving DecidableEq, Repr

def GameState.value : GameState → UInt8
  | init => 0
  | waiting => 1
  | initializingGame => 2
  | waitingToCountDown => 3
  | countingDown => 4
  | start => 5
  | playing => 6
  | gameOver => 7
  | water => 8
  | timeUp => 9
  | maxScore => 10
  | error => 11
  | unnamed raw => raw

def GameState.ofValue (raw : UInt8) : GameState :=
  match raw.toNat with
  | 0 => init
  | 1 => waiting
  | 2 => initializingGame
  | 3 => waitingToCountDown
  | 4 => countingDown
  | 5 => start
  | 6 => playing
  | 7 => gameOver
  | 8 => water
  | 9 => timeUp
  | 10 => maxScore
  | 11 => error
  | _ => unnamed raw

inductive TimeScale
  | auto
  | millisecond
  | second

inductive Button
  | button1
  | button2
  | button3
  | button4
  deriving DecidableEq, Repr

inductive ButtonAction
  | release
  | push
  deriving DecidableEq, Repr

structure Game where
  gameState : GameState
  myScore : UInt32
  theirScore : UInt32
  gameTime : UInt32
  gameInitTicks : UInt32
  gameStartTicks : UInt32
  waterStartTicks : UInt32
  deriving DecidableEq

def gameReset : Game where
  gameState := .init
  myScore := 0
  theirScore := 0
  gameTime := 60000
  gameInitTicks := 0
  gameStartTicks := 0
  waterStartTicks := 0

/-- `led3` says whether `BSP_LED_3` is on, which keeps the water off. -/
structure Device where
  game : Game
  server : ServiceServer
  client : ServiceClient
  led3 : Bool
  deriving DecidableEq

inductive DeviceCall
  | server (call : ServerCall)
  | client (call : ClientCall)
  | sevenSegmentBlankDigits (address : UInt8)
  | sevenSegmentSetCharDigits (address startDigit : UInt8) (text : String) (colonType : ColonType)
  | sevenSegmentSetNumbers (address left right : UInt8) (colonType : ColonType)
  | serialWrite (text : String)
  deriving DecidableEq

structure Readings where
  first : UInt32
  second : UInt32
  deriving DecidableEq

def maxScore : UInt32 := 0xFFFFFFFF

-- ---------------------------------------------------------------------------
-- Roles and scores
-- ---------------------------------------------------------------------------

def Device.isServiceServer (d : Device) : Bool := serviceServerIsConnected d.server

def Device.isServiceClient (d : Device) : Bool := serviceClientIsConnected d.client

def gameGetGameTime (d : Device) : UInt32 :=
  if d.isServiceServer then serviceServerGetGameTime d.server
  else if d.isServiceClient then serviceClientGetGameTime d.client
  else 0

def gameGetMyScore (d : Device) : UInt32 := d.game.myScore

def gameSetMyScore (d : Device) (score : UInt32) : Device × List DeviceCall :=
  let d := { d with game.myScore := score }
  if d.isServiceServer then
    let (server, calls) := serviceServerIndicateServerScore d.server d.game.myScore
    ({ d with server }, calls.map .server)
  else if d.isServiceClient then
    (d, (serviceClientWriteClientScore d.client d.game.myScore).map .client)
  else (d, [])

/-- The increment stops at `MAX_SCORE`. -/
def gameIncrementMyScore (d : Device) (points : UInt32) : Device × List DeviceCall :=
  let newScore := if maxScore - d.game.myScore > points then d.game.myScore + points else maxScore
  gameSetMyScore d newScore

def gameGetTheirScore (d : Device) : UInt32 × Device :=
  let theirScore :=
    if d.isServiceServer then serviceServerGetClientScore d.server
    else if d.isServiceClient then serviceClientGetServerScore d.client
    else d.game.theirScore
  (theirScore, { d with game.theirScore := theirScore })

def gameSetState (d : Device) (state : UInt32) : Device :=
  { d with game.gameState := .ofValue state.toUInt8 }

def gameIndicateState (d : Device) (state : GameState) : List DeviceCall :=
  if d.isServiceServer then
    (serviceServerIndicateGameState d.server state.value.toUInt32).map .server
  else []

-- ---------------------------------------------------------------------------
-- Displays
-- ---------------------------------------------------------------------------

/-- `%02d` of a word, which it takes for a signed one. -/
def formatTwoDigits (value : UInt32) : String :=
  let text := toString value.toInt32.toInt
  if text.length < 2 then "0" ++ text else text

def gamePrintStart (ms : UInt32) : List DeviceCall :=
  let i := 5 - ms / 1000
  let countString := ("4321".take (min i 4).toNat).toString
  .sevenSegmentSetCharDigits timeAddress 0 countString .none ::
    if 5 ≤ i.toInt32 then [.sevenSegmentSetCharDigits scoreAddress 0 "PLAY" .none] else []

def gamePrintScore (myScore theirScore : UInt32) : List DeviceCall :=
  [.serialWrite ("\t" ++ formatTwoDigits myScore ++ " " ++ formatTwoDigits theirScore),
    .sevenSegmentSetNumbers scoreAddress myScore.toUInt8 theirScore.toUInt8 .none]

def gamePrintTime (ms : UInt32) (timeScale : TimeScale) : List DeviceCall :=
  let totalSeconds := ms / 1000
  let hundredths := ms % 1000 / 10
  let (leftTime, rightTime) := match timeScale with
    | .millisecond => (totalSeconds % 60, hundredths)
    | .second => (totalSeconds / 60, totalSeconds % 60)
    | .auto =>
      if 60 > totalSeconds then (totalSeconds % 60, hundredths)
      else (totalSeconds / 60, totalSeconds % 60)
  [.serialWrite ("\r\t" ++ formatTwoDigits leftTime ++ ":" ++ formatTwoDigits rightTime),
    .sevenSegmentSetNumbers timeAddress leftTime.toUInt8 rightTime.toUInt8 .colon]

def gamePrintEnd (myScore theirScore : UInt32) : List DeviceCall :=
  let text := if myScore ≥ theirScore then "FAIL" else "PASS"
  [.sevenSegmentSetCharDigits scoreAddress 0 text .none,
    .sevenSegmentSetCharDigits timeAddress 0 text .none]

-- ---------------------------------------------------------------------------
-- The game
-- ---------------------------------------------------------------------------

def gameEventHandler (d : Device) (pin : Button) (action : ButtonAction) :
    Device × List DeviceCall :=
  if action = .release then (d, [])
  else match pin with
    | .button1 => (d, [])
    | .button2 =>
      if d.game.gameState = .waiting then ({ d with game.gameState := .initializingGame }, [])
      else ({ d with game.gameState := .init }, [])
    | .button3 => if d.game.gameState = .playing then gameIncrementMyScore d 1 else (d, [])
    | .button4 =>
      if d.game.gameState = .waiting ∧ d.isServiceServer then
        ({ d with game.gameState := .initializingGame }, [])
      else if d.game.gameState = .playing then gameSetMyScore d maxScore
      else ({ d with game.gameState := .init }, [])

def gameInit (d : Device) : Device := { d with game.gameState := .init }

/-- One turn of the game, with the scores as they are at its start. -/
def gameTasks (t : AppTimer) (d : Device) (now : Readings) : Device × List DeviceCall :=
  let myScore := gameGetMyScore d
  let (theirScore, d) := gameGetTheirScore d
  match d.game.gameState with
  | .init =>
    ({ d with game.gameState := .waiting, led3 := true },
      gameIndicateState d .init ++
        [.sevenSegmentBlankDigits timeAddress, .sevenSegmentBlankDigits scoreAddress])
  | .initializingGame =>
    let indicated := gameIndicateState d .initializingGame
    let d := { d with game.gameInitTicks := now.first }
    let (d, calls) := gameSetMyScore d 0
    ({ d with game.gameState := .countingDown }, indicated ++ calls)
  | .countingDown =>
    let countDownTicks := clockMsInTicks t 5000
    let ms := clockMsUntil t now.first d.game.gameInitTicks countDownTicks
    let passed := clockTicksHavePassed t now.second d.game.gameInitTicks countDownTicks
    (if passed then { d with game.gameState := .start } else d, gamePrintStart ms)
  | .start =>
    ({ d with game.gameStartTicks := now.first, game.gameState := .playing }, [])
  | .playing =>
    let playTicks := clockMsInTicks t d.game.gameTime
    let ms := clockMsUntil t now.first d.game.gameStartTicks playTicks
    let passed := clockTicksHavePassed t now.second d.game.gameStartTicks playTicks
    let d := if passed then { d with game.gameState := .gameOver } else d
    let d := if maxScore = myScore ∨ maxScore = theirScore then
        { d with game.gameState := .gameOver }
      else d
    (d, gamePrintTime ms .auto ++ gamePrintScore myScore theirScore)
  | .gameOver =>
    let d := { d with game.waterStartTicks := now.first, game.gameState := .water }
    -- The source's comment speaks of a lost game; a tie switches the water on, too.
    (if myScore ≥ theirScore then { d with led3 := false } else d, gamePrintEnd myScore theirScore)
  | .water =>
    let waterTicks := clockMsInTicks t 7000
    if clockTicksHavePassed t now.first d.game.waterStartTicks waterTicks then
      ({ d with led3 := true, game.gameState := .init }, [])
    else (d, [])
  | _ => (d, [])

-- ---------------------------------------------------------------------------
-- The service
-- ---------------------------------------------------------------------------

def gameTakeState (d : Device) (calls : List ClientCall) : Device :=
  calls.foldl (fun d call => match call with
    | .gameSetState state => gameSetState d state
    | _ => d) d

def serviceOnBleEvt (uninit : UInt32) (d : Device) (evt : BleEvt) :
    Option (Device × List DeviceCall) := do
  let (client, clientCalls) ← serviceClientOnBleEvt uninit d.client evt
  let d := gameTakeState { d with client } clientCalls
  let (server, serverCalls) ← serviceServerOnBleEvt d.server evt
  return ({ d with server }, clientCalls.map .client ++ serverCalls.map .server)

def serviceTryConnect (d : Device) : Device × List DeviceCall :=
  let (client, calls) := serviceClientTryConnect d.client
  ({ d with client }, calls.map .client)

def serviceTasks (d : Device) : Device :=
  { d with client := serviceClientTasks d.client, server := serviceServerTasks d.server }

/-- The device after `service_init` and `game_init`. `status_init` has switched
`BSP_LED_3` on by then. -/
def deviceBoot (valueHandles : List UInt16) : Device :=
  gameInit
    { game := gameReset
      server := (serviceServerInit serviceServerReset valueHandles).1
      client := serviceClientInit serviceClientReset
      led3 := true }

-- ---------------------------------------------------------------------------
-- Steps of a device
-- ---------------------------------------------------------------------------

inductive DeviceEvent
  | button (pin : Button) (action : ButtonAction)
  | gameTasks (now : Readings)
  | serviceTasks
  | setMyScore (score : UInt32)
  | incrementMyScore (points : UInt32)
  | tryConnect
  | ble (evt : BleEvt) (uninit : UInt32)
  deriving DecidableEq

def deviceStep (t : AppTimer) (d : Device) : DeviceEvent → Option (Device × List DeviceCall)
  | .button pin action => some (gameEventHandler d pin action)
  | .gameTasks now => some (gameTasks t d now)
  | .serviceTasks => some (serviceTasks d, [])
  | .setMyScore score => some (gameSetMyScore d score)
  | .incrementMyScore points => some (gameIncrementMyScore d points)
  | .tryConnect => some (serviceTryConnect d)
  | .ble evt uninit => serviceOnBleEvt uninit d evt

end WaterBall
