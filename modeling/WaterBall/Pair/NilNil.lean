import WaterBall.Support.Awaited
import WaterBall.Pair.InOrder
import WaterBall.Pair.Verdicts

/-!
# Games that start at nil-nil

A device resets its own score when it begins a game, and has it still when the
game starts. The peer's score it takes from the messages that have arrived, and
nothing waits for the peer's reset: neither the countdown, nor BUTTON_2 on a
client, which begins a game that the server has no part in. A game that the
server begins and both take part in starts at nil-nil once the resets of it
have arrived.
-/

namespace WaterBall

open Support

def Pair.InRole (p : Pair) : Side → Prop
  | .server => p.server.isServiceServer = true
  | .client => p.client.isServiceClient = true

def DeviceEvent.isGame : DeviceEvent → Bool
  | button _ _ => true
  | gameTasks _ => true
  | serviceTasks => true
  | tryConnect => true
  | _ => false

def PairEvent.isGame : PairEvent → Bool
  | atServer event => event.isGame
  | atClient event => event.isGame
  | _ => true

theorem PairEvent.isGame_isOwn {event : PairEvent} (h : event.isGame = true) :
    event.isOwn = true := by
  cases event with
  | atServer event => cases event <;> first | rfl | cases h
  | atClient event => cases event <;> first | rfl | cases h
  | _ => rfl

-- ---------------------------------------------------------------------------
-- The own score
-- ---------------------------------------------------------------------------

/-- From the reset to the start of the game there are no points. -/
def Device.Cleared (d : Device) : Prop :=
  d.game.gameState = .countingDown ∨ d.game.gameState = .start → d.game.myScore = 0

section
variable {d d' : Device}

theorem Device.Cleared.of_state (hcounting : d.game.gameState ≠ .countingDown)
    (hstart : d.game.gameState ≠ .start) : d.Cleared := by
  rintro (h | h)
  · exact absurd h hcounting
  · exact absurd h hstart

theorem deviceBoot_cleared (valueHandles : List UInt16) : (deviceBoot valueHandles).Cleared :=
  .of_state (by simp [deviceBoot, gameInit]) (by simp [deviceBoot, gameInit])

theorem Device.Cleared.turn (hd : d.Cleared) (h : GameTurn d d' calls) : d'.Cleared := by
  cases h with
  | stop => exact .of_state (by simp) (by simp)
  | begin ticks hstate hset =>
    have hgame := gameSetMyScore_game
      { d with game.theirScore := d.theirView, game.gameInitTicks := ticks } 0
    rw [hset] at hgame
    intro _
    rw [hgame]
  | countDown ms state hstate => exact fun _ => hd (.inl hstate)
  | play => exact .of_state (by simp) (by simp)
  | score ms state hstate hnext =>
    rcases hnext with rfl | rfl
    · exact .of_state (by simp) (by simp)
    · exact .of_state (by simp) (by simp)
  | verdict => exact .of_state (by simp) (by simp)
  | dry => exact .of_state (by simp) (by simp)
  | wait => exact hd

theorem Device.Cleared.button (hd : d.Cleared) (pin : Button) (action : ButtonAction) :
    (gameEventHandler d pin action).1.Cleared := by
  have hset : d.game.gameState = .playing → ∀ score, (gameSetMyScore d score).1.Cleared := by
    intro hstate score
    exact .of_state (by simp [hstate]) (by simp [hstate])
  unfold gameEventHandler
  split
  · exact hd
  cases pin with
  | button1 => exact hd
  | button2 =>
    dsimp only
    split
    · exact .of_state (by simp) (by simp)
    · exact .of_state (by simp) (by simp)
  | button3 =>
    dsimp only
    split
    case isTrue hstate => exact hset hstate _
    case isFalse => exact hd
  | button4 =>
    dsimp only
    split
    · exact .of_state (by simp) (by simp)
    split
    case isTrue hstate => exact hset hstate _
    case isFalse => exact .of_state (by simp) (by simp)

theorem Device.Cleared.step (hd : d.Cleared) (hgame : event.isGame = true)
    (h : deviceStep t d event = some (d', calls)) : d'.Cleared := by
  cases event with
  | button pin action => exact Runs.state_of_result h (hd.button pin action)
  | gameTasks now => exact Runs.state_of_result h (hd.turn (gameTasks_turn t d now))
  | serviceTasks => exact Runs.state_of_result h hd
  | tryConnect => exact Runs.state_of_result h hd
  | _ => cases hgame

theorem Device.Cleared.take {m : ToClient} (hd : d.Cleared) (hm : m.Proper a d.client)
    (hevent : serviceClientOnBleEvt uninit d.client m.event = some (c, clientCalls)) :
    (gameTakeState d clientCalls).Cleared := by
  rcases gameTakeState_proper hm hevent with heq | ⟨state, hstate, heq⟩
  · rw [heq]
    exact hd
  · rw [heq]
    rcases hstate with rfl | rfl
    · exact .of_state (by simp) (by simp)
    · exact .of_state (by simp) (by simp)

end

section
variable {a : Attributes} {p p' : Pair}

theorem Pair.cleared_iff :
    (∀ side, (p.device side).Cleared) ↔ p.server.Cleared ∧ p.client.Cleared := by
  constructor
  · exact fun h => ⟨h .server, h .client⟩
  · rintro ⟨hserver, hclient⟩ (_ | _)
    · exact hserver
    · exact hclient

theorem Pair.cleared_step (hp : p.Wired a) (hgame : event.isGame = true)
    (h : pairStep t a p event = some (p', outs))
    (hcleared : p.server.Cleared ∧ p.client.Cleared) : p'.server.Cleared ∧ p'.client.Cleared := by
  obtain ⟨hserver, hclient⟩ := hcleared
  cases event with
  | atServer event =>
    obtain ⟨server, calls, hone, rfl, -⟩ := pairStep_atServer h
    exact ⟨hserver.step hgame hone, hclient⟩
  | atClient event =>
    obtain ⟨client, calls, hone, rfl, -⟩ := pairStep_atClient h
    exact ⟨hserver, hclient.step hgame hone⟩
  | deliverToServer place =>
    obtain ⟨message, calls, -, -, hserved, -⟩ := hp.deliverToServer h
    obtain ⟨server, scoreConfig, stateConfig, toClient, rfl⟩ := hserved.frame
    exact ⟨hserver, hclient⟩
  | deliverToClient place uninit =>
    obtain ⟨message, client, clientCalls, hmessage, hevent, rfl, -⟩ := pairStep_deliverToClient h
    have hproper := hp.toClient message (List.mem_of_getElem? hmessage)
    exact ⟨hserver, hclient.take hproper hevent⟩
  | connect serverConn clientConn =>
    obtain ⟨-, -, rfl⟩ := pairStep_connect h
    exact ⟨hserver, hclient⟩
  | disconnect =>
    obtain ⟨-, -, rfl⟩ := pairStep_disconnect h
    exact ⟨hserver, hclient⟩

end

-- ---------------------------------------------------------------------------
-- The peer's reset
-- ---------------------------------------------------------------------------

/-- The turn that begins a game, with the reset of the device's score. -/
def Device.resets (d : Device) : DeviceEvent → Bool
  | .gameTasks _ => d.game.gameState == .initializingGame
  | _ => false

/-- BUTTON_2 begins a game on its own device, whatever its role. -/
def Device.startsByHand (d : Device) : DeviceEvent → Bool
  | .button .button2 .push => d.game.gameState == .waiting
  | _ => false

inductive ResetMark
  | begins
  | sends (ahead : Nat)
  | arrives
  | lost
  deriving DecidableEq, Repr

/-- What a step has to do with the reset that a side waits for. The server
waits anew from its own reset on, for one that the client makes after it. The
client waits for the one that comes with a game of the server's; a game that
it begins by hand has none. -/
def Pair.resetMark (a : Attributes) (p : Pair) : Side → PairEvent → Option ResetMark
  | .server, .atServer event => if p.server.resets event then some .begins else none
  | .server, .atClient event =>
    if p.client.resets event ∧ p.ClientOpen then some (.sends (p.coming a .server).length)
    else none
  | .client, .atServer event =>
    if p.server.resets event then
      some (if p.ServerOpen then .sends (p.coming a .client).length else .begins)
    else none
  | .client, .atClient event => if p.client.startsByHand event then some .begins else none
  | side, .deliverToServer place => (p.hears a side (.deliverToServer place)).map fun _ => .arrives
  | side, .deliverToClient place uninit =>
    (p.hears a side (.deliverToClient place uninit)).map fun _ => .arrives
  | _, .connect _ _ => none
  | _, .disconnect => some .lost

def ResetMark.follow (awaited : Awaited) : ResetMark → Awaited
  | begins => .missing
  | sends ahead => .coming ahead
  | arrives => awaited.arrive
  | lost => awaited.lose

/-- Where the peer's reset for a device's game is after a run. -/
def peerReset (t : AppTimer) (a : Attributes) (side : Side) (p : Pair)
    (events : List PairEvent) : Awaited :=
  (Runs.observed (pairStep t a) (fun p event => (p.resetMark a side event).toList) p
    events).foldl ResetMark.follow .missing

section
variable {a : Attributes} {p p' : Pair}

theorem Device.resets_turn {d : Device} (h : d.resets event = true) :
    d.game.gameState = .initializingGame ∧ ∃ now, event = .gameTasks now := by
  cases event with
  | gameTasks now => exact ⟨eq_of_beq h, now, rfl⟩
  | _ => cases h

theorem gameTasks_resets {d : Device} (hstate : d.game.gameState = .initializingGame)
    (h : deviceStep t d (.gameTasks now) = some (d', calls)) :
    ∃ d₀ : Device, d₀.server = d.server ∧ d₀.client = d.client ∧
      calls = gameIndicateState d .initializingGame ++ (gameSetMyScore d₀ 0).2 := by
  have hturn := gameTasks_turn t d now
  rw [show gameTasks t d now = (d', calls) from Option.some.inj h] at hturn
  cases hturn with
  | begin ticks _ hset =>
    refine ⟨{ d with game.theirScore := d.theirView, game.gameInitTicks := ticks }, rfl, rfl, ?_⟩
    rw [hset]
    rfl
  | wait hnot => exact absurd hstate hnot.2.1
  | stop hother | countDown _ _ hother | play _ hother | score _ _ hother
  | verdict _ _ hother | dry hother => cases hstate.symm.trans hother

theorem Pair.Wired.sendsReset {server : Device} (hp : p.Wired a) (hopen : p.ServerOpen)
    (hresets : p.server.resets event = true)
    (h : deviceStep t p.server event = some (server, calls)) :
    (calls.filterMap (p.indication a)).filterMap (ToClient.score a) = [0] := by
  obtain ⟨hstate, now, rfl⟩ := Device.resets_turn hresets
  obtain ⟨d₀, hserver, -, rfl⟩ := gameTasks_resets hstate h
  have hlinked := (hp.configured (.inl hopen.2)).1
  have hrole : d₀.isServiceServer = true := by
    rw [Device.isServiceServer, hserver]
    exact hopen.1
  have hcall : (gameSetMyScore d₀ 0).2 = [.server (.gattsHvx p.server.server.connHandle
      a.info.serverScoreHandle .indication (LittleEndian.wordBytes 0))] := by
    rw [gameSetMyScore_asServer hrole, hserver, serviceServerHvxSend,
      if_neg (hp.serverConn hlinked), hp.serverInfo]
    rfl
  have hmessage : p.indication a (.server (.gattsHvx p.server.server.connHandle
      a.info.serverScoreHandle .indication (LittleEndian.wordBytes 0))) =
        some (.handleValue a.info.serverScoreHandle .indication (LittleEndian.wordBytes 0)) :=
    if_pos ⟨hlinked, by simp [Pair.configured, hopen.2]⟩
  have hstates : ((gameIndicateState p.server .initializingGame).filterMap
      (p.indication a)).filterMap (ToClient.score a) = [] := by
    refine filterMap_silent fun call hcall m hm => ?_
    rw [gameIndicateState_message hp.serverInfo hcall hm]
    exact if_neg a.gameState_ne_serverScore
  rw [List.filterMap_append, List.filterMap_append, hstates, hcall]
  simp [hmessage, ToClient.score]

theorem Pair.Wired.writesReset {client : Device} (hp : p.Wired a) (hopen : p.ClientOpen)
    (hresets : p.client.resets event = true)
    (h : deviceStep t p.client event = some (client, calls)) :
    (calls.filterMap p.request).filterMap (ToServer.score a) = [0] := by
  obtain ⟨hstate, now, rfl⟩ := Device.resets_turn hresets
  obtain ⟨d₀, hserver, hclient, rfl⟩ := gameTasks_resets hstate h
  obtain ⟨hlinked, hc⟩ := hp.connected hopen
  have hno : d₀.isServiceServer = false := by
    rw [Device.isServiceServer, hserver]
    exact hp.clientRole
  have hrole : d₀.isServiceClient = true := by
    rw [Device.isServiceClient, hclient]
    exact hopen
  have hcall : (gameSetMyScore d₀ 0).2 = [.client (.gattcWrite p.client.client.connHandle .request
      a.info.clientScoreHandle (LittleEndian.wordBytes 0))] := by
    rw [gameSetMyScore_asClient hno hrole, hclient, hc.info]
  have hmessage : p.request (.client (.gattcWrite p.client.client.connHandle .request
      a.info.clientScoreHandle (LittleEndian.wordBytes 0))) =
        some (.writeRequest a.info.clientScoreHandle (LittleEndian.wordBytes 0)) := if_pos hlinked
  have hstates : gameIndicateState p.client .initializingGame = [] :=
    if_neg (by rw [hp.clientRole]; exact Bool.false_ne_true)
  rw [hstates, List.nil_append, hcall]
  simp [hmessage, ToServer.score]

/-- The reset is where the marks say, or is the last score that has arrived. -/
theorem Pair.awaits_step (hp : p.Wired a) (hown : event.isOwn = true)
    (horder : event.inOrder = true) (h : pairStep t a p event = some (p', outs)) (side : Side)
    {awaited : Awaited} (hawaits : awaited.Holds 0 (p.peerScore side) (p.coming a side)) :
    ((p.resetMark a side event).toList.foldl ResetMark.follow awaited).Holds 0
      (p'.peerScore side) (p'.coming a side) := by
  have hscore := Pair.peerScore_step hp hown h side
  have hmove := Pair.coming_move hp hown horder h side
  -- A score that does not arrive, with the link up, moves nothing.
  have hkeeps : p.hears a side event = none → event ≠ .disconnect →
      awaited.Holds 0 (p'.peerScore side) (p'.coming a side) := by
    intro hnone hup
    rw [hscore, hnone]
    cases hmove with
    | send sent _ _ hcoming =>
      rw [hcoming]
      exact hawaits.push sent
    | arrive hcoming =>
      rw [hnone] at hcoming
      rw [← show p.coming a side = p'.coming a side from hcoming]
      exact hawaits
    | lose hdown => exact absurd hdown hup
  have harrives : ∀ score, p.hears a side event = some score →
      awaited.arrive.Holds 0 (p'.peerScore side) (p'.coming a side) := by
    intro score hheard
    rw [hscore, hheard]
    cases hmove with
    | send _ hnone => cases hnone.symm.trans hheard
    | arrive hcoming =>
      rw [hheard] at hcoming
      rw [show p.coming a side = score :: p'.coming a side from hcoming] at hawaits
      exact hawaits.arrive
    | lose hdown =>
      rw [hdown] at hheard
      cases side <;> cases hheard
  cases event with
  | atServer event =>
    obtain ⟨server, calls, hone, rfl, -⟩ := pairStep_atServer h
    cases side with
    | server =>
      simp only [Pair.resetMark]
      split
      · trivial
      · exact hkeeps rfl nofun
    | client =>
      simp only [Pair.resetMark]
      split
      case isTrue hresets =>
        split
        case isTrue hopen =>
          have hsent := hp.sendsReset hopen hresets hone
          have hcoming : Pair.coming a { p with
              server, toClient := p.toClient ++ calls.filterMap (p.indication a) } .client =
                p.coming a .client ++ [0] := by
            rw [← hsent]
            exact List.filterMap_append ..
          rw [hcoming]
          exact Awaited.holds_send ..
        · trivial
      · exact hkeeps rfl nofun
  | atClient event =>
    obtain ⟨client, calls, hone, rfl, -⟩ := pairStep_atClient h
    cases side with
    | server =>
      simp only [Pair.resetMark]
      split
      case isTrue hresets =>
        have hsent := hp.writesReset hresets.2 hresets.1 hone
        have hcoming : Pair.coming a { p with
            client, toServer := p.toServer ++ calls.filterMap p.request } .server =
              p.coming a .server ++ [0] := by
          rw [← hsent]
          exact List.filterMap_append ..
        rw [hcoming]
        exact Awaited.holds_send ..
      · exact hkeeps rfl nofun
    | client =>
      simp only [Pair.resetMark]
      split
      · trivial
      · exact hkeeps rfl nofun
  | deliverToServer place =>
    simp only [Pair.resetMark]
    cases hheard : p.hears a side (.deliverToServer place) with
    | none => exact hkeeps hheard nofun
    | some score => exact harrives score hheard
  | deliverToClient place uninit =>
    simp only [Pair.resetMark]
    cases hheard : p.hears a side (.deliverToClient place uninit) with
    | none => exact hkeeps hheard nofun
    | some score => exact harrives score hheard
  | connect serverConn clientConn =>
    cases side <;> exact hkeeps rfl nofun
  | disconnect =>
    obtain ⟨-, -, rfl⟩ := pairStep_disconnect h
    have hlost := hawaits.lose
    cases side <;> exact hlost

end

-- ---------------------------------------------------------------------------
-- Runs
-- ---------------------------------------------------------------------------

/-- What a run of the game keeps on each side, with the marks of the peer's resets. -/
structure Pair.Nil (a : Attributes) (side : Side) (p : Pair) (marks : List ResetMark) : Prop where
  wired : p.Wired a
  cleared : ∀ side, (p.device side).Cleared
  awaits : (marks.foldl ResetMark.follow .missing).Holds 0 (p.peerScore side) (p.coming a side)

theorem Pair.Nil.step (h : Pair.Nil a side p marks) (hgame : event.isGame = true)
    (horder : event.inOrder = true) (hstep : pairStep t a p event = some (p', outs)) :
    p'.Nil a side (marks ++ (p.resetMark a side event).toList) := by
  have hown := PairEvent.isGame_isOwn hgame
  have hcleared := Pair.cleared_step h.wired hgame hstep (Pair.cleared_iff.mp h.cleared)
  refine ⟨h.wired.step hown hstep, Pair.cleared_iff.mpr hcleared, ?_⟩
  rw [List.foldl_append]
  exact Pair.awaits_step h.wired hown horder hstep side h.awaits

theorem pairBoot_nil (a : Attributes) (clientHandles : List UInt16) (side : Side) :
    (pairBoot a clientHandles).Nil a side [] := by
  refine ⟨pairBoot_wired a clientHandles, Pair.cleared_iff.mpr ⟨?_, ?_⟩, trivial⟩
  · exact deviceBoot_cleared a.valueHandles
  · exact deviceBoot_cleared clientHandles

theorem gameTasks_start (t : AppTimer) (now : Readings) (hstart : d.game.gameState = .start) :
    (gameTasks t d now).1.game.gameState = .playing ∧
      (gameTasks t d now).1.game.myScore = d.game.myScore ∧
      (gameGetTheirScore (gameTasks t d now).1).1 = d.theirView := by
  unfold gameTasks
  rw [gameGetTheirScore_eq]
  simp only [hstart]
  exact ⟨trivial, trivial, theirView_refreshed rfl rfl rfl⟩

/-- In every run of the game, whenever a device in its role starts to play: its
own score is 0, and the peer's is 0 where the peer's reset for this game has
arrived and no score behind it. -/
theorem pair_starts_nil (t : AppTimer) (a : Attributes) (clientHandles : List UInt16)
    (events : List PairEvent)
    (hevents : ∀ event ∈ events, event.isGame = true ∧ event.inOrder = true)
    (p : Pair) (outs : List (Side × DeviceCall))
    (hrun : Runs.run (pairStep t a) (pairBoot a clientHandles) events = some (p, outs))
    (side : Side) (hrole : p.InRole side) (hstart : (p.device side).game.gameState = .start)
    (now : Readings) :
    (gameTasks t (p.device side) now).1.game.gameState = .playing ∧
      gameGetMyScore (gameTasks t (p.device side) now).1 = 0 ∧
      (peerReset t a side (pairBoot a clientHandles) events = .here →
        (gameGetTheirScore (gameTasks t (p.device side) now).1).1 = 0) := by
  have hnil : p.Nil a side (Runs.observed (pairStep t a)
      (fun p event => (p.resetMark a side event).toList) (pairBoot a clientHandles) events) := by
    have hguard : Runs.Guarded (pairStep t a)
        (fun _ event => event.isGame = true ∧ event.inOrder = true)
        (pairBoot a clientHandles) events :=
      Runs.guarded_of_forall fun event hmem _ => hevents event hmem
    exact hguard.observes (P := Pair.Nil a side)
      (fun _ _ _ _ _ hnil hevent hstep => hnil.step hevent.1 hevent.2 hstep) []
      (pairBoot_nil a clientHandles side) hrun
  obtain ⟨hplaying, hmy, htheir⟩ := gameTasks_start t now hstart
  refine ⟨hplaying, ?_, fun hhere => ?_⟩
  · rw [gameGetMyScore, hmy]
    exact hnil.cleared side (.inr hstart)
  · have hview : (p.device side).theirView = p.peerScore side := by
      cases side with
      | server => exact theirView_asServer hrole
      | client => exact theirView_asClient hnil.wired.clientRole hrole
    have hreset : (peerReset t a side (pairBoot a clientHandles) events).Holds 0
        (p.peerScore side) (p.coming a side) := hnil.awaits
    rw [hhere] at hreset
    rw [htheir, hview]
    exact hreset

theorem pair_starts_nil_followedGame : ∃ p outs,
    Runs.run (pairStep appTimerSdk attributesAt16) (pairBoot attributesAt16 []) followedGame =
        some (p, outs) ∧
      p.client.game.gameState = .start ∧
      (gameTasks appTimerSdk p.client ⟨163851, 163851⟩).1.game.gameState = .playing ∧
      gameGetMyScore (gameTasks appTimerSdk p.client ⟨163851, 163851⟩).1 = 0 ∧
      (gameGetTheirScore (gameTasks appTimerSdk p.client ⟨163851, 163851⟩).1).1 = 0 := by
  have hfinal : (Runs.run (pairStep appTimerSdk attributesAt16) (pairBoot attributesAt16 [])
      followedGame).map (fun final =>
        (final.1.client.isServiceClient, final.1.client.game.gameState)) = some (true, .start) := by
    decide +kernel
  obtain ⟨⟨p, outs⟩, hrun, heq⟩ := Option.map_eq_some_iff.mp hfinal
  obtain ⟨hrole, hstart⟩ : p.client.isServiceClient = true ∧ p.client.game.gameState = .start := by
    simpa using heq
  obtain ⟨hplaying, hmy, htheir⟩ := pair_starts_nil appTimerSdk attributesAt16 [] followedGame
    (by decide +kernel) p outs hrun .client hrole hstart ⟨163851, 163851⟩
  exact ⟨p, outs, hrun, hstart, hplaying, hmy, htheir (by decide +kernel)⟩

-- The server has the client's reset, too, once the client's messages have arrived.
example : peerReset appTimerSdk attributesAt16 .server (pairBoot attributesAt16 [])
    (followedGame ++ List.replicate 4 (.deliverToServer 0)) = .here := by decide +kernel

/-- The server scores; the client stops the game with BUTTON_2 and begins one of its own. -/
def clientsOwnGame : List PairEvent :=
  serverGame ++ [.atServer (.gameTasks ⟨163849, 163849⟩), .atServer (.button .button3 .push),
    .deliverToClient 0 0, .deliverToClient 0 0, .deliverToClient 0 0, .deliverToClient 0 0,
    .atClient (.button .button2 .push), .atClient (.gameTasks ⟨163860, 163860⟩),
    .atClient (.button .button2 .push), .atClient (.gameTasks ⟨163870, 163870⟩),
    .atClient (.gameTasks ⟨327710, 327710⟩)]

/-- Nothing is left in flight to the client when it starts to play. -/
theorem pair_starts_nil_clientsOwnGame :
    (∀ event ∈ clientsOwnGame, event.isGame = true ∧ event.inOrder = true) ∧
    ∃ p outs, Runs.run (pairStep appTimerSdk attributesAt16) (pairBoot attributesAt16 [])
      clientsOwnGame = some (p, outs) ∧
      p.InRole .server ∧ p.InRole .client ∧ p.toClient = [] ∧
      p.client.game.gameState = .start ∧
      (gameTasks appTimerSdk p.client ⟨327711, 327711⟩).1.game.gameState = .playing ∧
      (gameGetTheirScore (gameTasks appTimerSdk p.client ⟨327711, 327711⟩).1).1 = 1 := by
  have hfinal : (Runs.run (pairStep appTimerSdk attributesAt16) (pairBoot attributesAt16 [])
      clientsOwnGame).map (fun final =>
        let next := (gameTasks appTimerSdk final.1.client ⟨327711, 327711⟩).1
        (final.1.server.isServiceServer, final.1.client.isServiceClient, final.1.toClient,
          final.1.client.game.gameState, next.game.gameState, (gameGetTheirScore next).1)) =
        some (true, true, [], .start, .playing, 1) := by
    decide +kernel
  obtain ⟨⟨p, outs⟩, hrun, heq⟩ := Option.map_eq_some_iff.mp hfinal
  simp only [Prod.mk.injEq] at heq
  obtain ⟨hserver, hclient, hair, hstart, hplaying, htheir⟩ := heq
  exact ⟨by decide +kernel, p, outs, hrun, hserver, hclient, hair, hstart, hplaying, htheir⟩

end WaterBall
