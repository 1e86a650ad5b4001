import WaterBall.Game.DeviceLaws

/-!
# What a device does on its own

Buttons, turns of the game, score updates and the tasks of the service change
little of what the SoftDevice's events have set up, and whatever they send is
the device's score or one of two game states.
-/

namespace WaterBall

open Support

-- ---------------------------------------------------------------------------
-- Roles
-- ---------------------------------------------------------------------------

section
variable {d : Device}

theorem theirView_asServer (hserver : d.isServiceServer = true) :
    d.theirView = d.server.clientScore := if_pos hserver

theorem theirView_asClient (hserver : d.isServiceServer = false)
    (hclient : d.isServiceClient = true) : d.theirView = d.client.serverScore := by
  unfold Device.theirView gameGetTheirScore
  rw [hserver, hclient]
  rfl

theorem gameSetMyScore_asServer (hserver : d.isServiceServer = true) (score : UInt32) :
    gameSetMyScore d score =
      ({ d with game.myScore := score, server.serverScore := score },
        (serviceServerHvxSend d.server .indication d.server.info.serverScoreHandle
          (LittleEndian.wordBytes score)).map .server) := if_pos hserver

theorem gameSetMyScore_asClient (hserver : d.isServiceServer = false)
    (hclient : d.isServiceClient = true) (score : UInt32) :
    gameSetMyScore d score =
      ({ d with game.myScore := score },
        [.client (.gattcWrite d.client.connHandle .request d.client.info.clientScoreHandle
          (LittleEndian.wordBytes score))]) := by
  have hno : ¬ d.isServiceServer := by
    rw [hserver]
    exact Bool.false_ne_true
  exact (if_neg hno).trans (if_pos hclient)

theorem gameSetMyScore_alone (hserver : d.isServiceServer = false)
    (hclient : d.isServiceClient = false) (score : UInt32) :
    gameSetMyScore d score = ({ d with game.myScore := score }, []) := by
  have hno : ¬ d.isServiceServer := by
    rw [hserver]
    exact Bool.false_ne_true
  have hno' : ¬ d.isServiceClient := by
    rw [hclient]
    exact Bool.false_ne_true
  exact (if_neg hno).trans (if_neg hno')

end

-- ---------------------------------------------------------------------------
-- Own calls
-- ---------------------------------------------------------------------------

def DeviceCall.isDisplay : DeviceCall → Bool
  | server _ => false
  | client _ => false
  | _ => true

/-- The calls of a device in a role, when its score is `score`. -/
inductive OwnCall (s : ServiceServer) (c : ServiceClient) (score : UInt32) : DeviceCall → Prop
  | score (connHandle : UInt16) (hserver : serviceServerIsConnected s = true) :
      OwnCall s c score (.server (.gattsHvx connHandle s.info.serverScoreHandle .indication
        (LittleEndian.wordBytes score)))
  | state (connHandle : UInt16) (state : GameState) (hserver : serviceServerIsConnected s = true)
      (hstate : state = .init ∨ state = .initializingGame) :
      OwnCall s c score (.server (.gattsHvx connHandle s.info.gameStateHandle .indication
        (indicated state)))
  | write (connHandle : UInt16) (hserver : serviceServerIsConnected s = false)
      (hclient : serviceClientIsConnected c = true) :
      OwnCall s c score (.client (.gattcWrite connHandle .request c.info.clientScoreHandle
        (LittleEndian.wordBytes score)))
  | discover (connHandle : UInt16) :
      OwnCall s c score
        (.client (.gattcPrimaryServicesDiscover connHandle serviceClientStartHandle))
  | display (call : DeviceCall) (hdisplay : call.isDisplay = true) : OwnCall s c score call

theorem mem_hvxSend {call : DeviceCall}
    (h : call ∈ (serviceServerHvxSend s type handle value).map DeviceCall.server) :
    call = .server (.gattsHvx s.connHandle handle type value) := by
  unfold serviceServerHvxSend at h
  split at h
  · cases h
  · exact List.mem_singleton.mp h

theorem gameSetMyScore_calls (d : Device) (score : UInt32) :
    ∀ call ∈ (gameSetMyScore d score).2, OwnCall d.server d.client score call := by
  intro call hcall
  cases hserver : d.isServiceServer with
  | true =>
    rw [gameSetMyScore_asServer hserver] at hcall
    rw [mem_hvxSend hcall]
    exact .score _ hserver
  | false =>
    cases hclient : d.isServiceClient with
    | true =>
      rw [gameSetMyScore_asClient hserver hclient] at hcall
      rw [List.mem_singleton.mp hcall]
      exact .write _ hserver hclient
    | false =>
      rw [gameSetMyScore_alone hserver hclient] at hcall
      cases hcall

theorem gameIndicateState_calls (d : Device) (score : UInt32)
    (hstate : state = .init ∨ state = .initializingGame) :
    ∀ call ∈ gameIndicateState d state, OwnCall d.server d.client score call := by
  intro call hcall
  unfold gameIndicateState at hcall
  split at hcall
  case isTrue hserver =>
    rw [mem_hvxSend hcall]
    exact .state _ state hserver hstate
  case isFalse => cases hcall

theorem displays_calls (d : Device) (score : UInt32) {calls : List DeviceCall}
    (h : ∀ call ∈ calls, call.isDisplay = true) :
    ∀ call ∈ calls, OwnCall d.server d.client score call :=
  fun call hcall => .display call (h call hcall)

theorem gamePrintStart_isDisplay (ms : UInt32) :
    ∀ call ∈ gamePrintStart ms, call.isDisplay = true := by
  unfold gamePrintStart
  dsimp only
  split
  · exact List.forall_mem_cons.mpr ⟨rfl, List.forall_mem_cons.mpr ⟨rfl, nofun⟩⟩
  · exact List.forall_mem_cons.mpr ⟨rfl, nofun⟩

-- ---------------------------------------------------------------------------
-- Own steps
-- ---------------------------------------------------------------------------

/-- What stays, and what the calls are. -/
structure OwnStep (d d' : Device) (calls : List DeviceCall) : Prop where
  serverInfo : d'.server.info = d.server.info
  serverConn : d'.server.connHandle = d.server.connHandle
  clientScore : d'.server.clientScore = d.server.clientScore
  isServiceServer : d'.isServiceServer = d.isServiceServer
  clientInfo : d'.client.info = d.client.info
  serviceHandle : d'.client.serviceHandle = d.client.serviceHandle
  serverScore : d'.client.serverScore = d.client.serverScore
  isServiceClient : d'.isServiceClient = true → d.isServiceClient = true
  calls : ∀ call ∈ calls, OwnCall d.server d.client d'.game.myScore call

theorem OwnStep.of_game {d d' : Device} {calls : List DeviceCall} (hserver : d'.server = d.server)
    (hclient : d'.client = d.client) (hcalls : ∀ call ∈ calls,
      OwnCall d.server d.client d'.game.myScore call) :
    OwnStep d d' calls where
  serverInfo := by rw [hserver]
  serverConn := by rw [hserver]
  clientScore := by rw [hserver]
  isServiceServer := by rw [Device.isServiceServer, hserver, Device.isServiceServer]
  clientInfo := by rw [hclient]
  serviceHandle := by rw [hclient]
  serverScore := by rw [hclient]
  isServiceClient h := by rwa [Device.isServiceClient, hclient] at h
  calls := hcalls

theorem gameSetMyScore_own (d : Device) (score : UInt32) :
    OwnStep d (gameSetMyScore d score).1 (gameSetMyScore d score).2 := by
  have hcalls := gameSetMyScore_calls d score
  have hscore : (gameSetMyScore d score).1.game.myScore = score := by rw [gameSetMyScore_game]
  obtain ⟨serverScore, h⟩ := gameSetMyScore_eq d score
  rw [← hscore] at hcalls
  rw [h] at hcalls ⊢
  exact ⟨rfl, rfl, rfl, rfl, rfl, rfl, rfl, id, hcalls⟩

theorem gameEventHandler_own (d : Device) (pin : Button) (action : ButtonAction) :
    OwnStep d (gameEventHandler d pin action).1 (gameEventHandler d pin action).2 := by
  unfold gameEventHandler
  split
  · exact .of_game rfl rfl nofun
  cases pin with
  | button1 => exact .of_game rfl rfl nofun
  | button2 =>
    dsimp only
    split
    · exact .of_game rfl rfl nofun
    · exact .of_game rfl rfl nofun
  | button3 =>
    dsimp only
    split
    · exact gameSetMyScore_own d _
    · exact .of_game rfl rfl nofun
  | button4 =>
    dsimp only
    split
    · exact .of_game rfl rfl nofun
    split
    · exact gameSetMyScore_own d _
    · exact .of_game rfl rfl nofun

theorem GameTurn.own (h : GameTurn d d' calls) : OwnStep d d' calls := by
  cases h with
  | stop =>
    refine .of_game rfl rfl (List.forall_mem_append.mpr ⟨?_, ?_⟩)
    · exact gameIndicateState_calls d _ (.inl rfl)
    · exact displays_calls d _ (by decide)
  | begin ticks hstate hset =>
    have hown := gameSetMyScore_own
      { d with game.theirScore := d.theirView, game.gameInitTicks := ticks } 0
    rw [hset] at hown
    refine ⟨hown.serverInfo, hown.serverConn, hown.clientScore, hown.isServiceServer,
      hown.clientInfo, hown.serviceHandle, hown.serverScore, hown.isServiceClient, ?_⟩
    refine List.forall_mem_append.mpr ⟨?_, hown.calls⟩
    exact gameIndicateState_calls d _ (.inr rfl)
  | countDown ms => exact .of_game rfl rfl (displays_calls d _ (gamePrintStart_isDisplay ms))
  | play => exact .of_game rfl rfl nofun
  | score =>
    refine .of_game rfl rfl (displays_calls d _ ?_)
    exact List.forall_mem_cons.mpr ⟨rfl, List.forall_mem_cons.mpr ⟨rfl,
      List.forall_mem_cons.mpr ⟨rfl, List.forall_mem_cons.mpr ⟨rfl, nofun⟩⟩⟩⟩
  | verdict =>
    refine .of_game rfl rfl (displays_calls d _ ?_)
    exact List.forall_mem_cons.mpr ⟨rfl, List.forall_mem_cons.mpr ⟨rfl, nofun⟩⟩
  | dry => exact .of_game rfl rfl nofun
  | wait => exact .of_game rfl rfl nofun

theorem serviceTasks_own (d : Device) : OwnStep d (serviceTasks d) [] := by
  have hserver : ∀ s : ServiceServer, (serviceServerTasks s).info = s.info ∧
      (serviceServerTasks s).connHandle = s.connHandle ∧
      (serviceServerTasks s).clientScore = s.clientScore ∧
      serviceServerIsConnected (serviceServerTasks s) = serviceServerIsConnected s := by
    rintro ⟨state, _, _, _, _, _, _, _, _, _, _, _⟩
    cases state with
    | connecting =>
      refine ⟨?_, ?_, ?_, ?_⟩ <;> (unfold serviceServerTasks; dsimp only; split <;> rfl)
    | _ => exact ⟨rfl, rfl, rfl, rfl⟩
  have hclient : ∀ c : ServiceClient, (serviceClientTasks c).info = c.info ∧
      (serviceClientTasks c).serviceHandle = c.serviceHandle ∧
      (serviceClientTasks c).serverScore = c.serverScore ∧
      serviceClientIsConnected (serviceClientTasks c) = serviceClientIsConnected c := by
    rintro ⟨state, _, _, _, _, _, _, _, _, _, _⟩
    cases state <;> exact ⟨rfl, rfl, rfl, rfl⟩
  obtain ⟨hinfo, hconn, hscore, hstate⟩ := hserver d.server
  obtain ⟨hinfo', hservice, hscore', hstate'⟩ := hclient d.client
  exact ⟨hinfo, hconn, hscore, hstate, hinfo', hservice, hscore', hstate'.symm.trans, nofun⟩

theorem serviceTryConnect_own (d : Device) :
    OwnStep d (serviceTryConnect d).1 (serviceTryConnect d).2 := by
  have htry : serviceTryConnect d =
      if bleConnHandleInvalid = d.client.connHandle then (d, [])
      else
        ({ d with client.state := .connecting }, [.client
          (.gattcPrimaryServicesDiscover d.client.connHandle serviceClientStartHandle)]) := by
    unfold serviceTryConnect serviceClientTryConnect
    by_cases hinvalid : bleConnHandleInvalid = d.client.connHandle
    · rw [if_pos hinvalid, if_pos hinvalid]
      rfl
    · rw [if_neg hinvalid, if_neg hinvalid]
      rfl
  rw [htry]
  split
  · exact .of_game rfl rfl nofun
  · refine ⟨rfl, rfl, rfl, rfl, rfl, rfl, rfl, nofun, ?_⟩
    exact List.forall_mem_cons.mpr ⟨.discover _, nofun⟩

def DeviceEvent.isOwn : DeviceEvent → Bool
  | ble _ _ => false
  | _ => true

theorem deviceStep_own (hown : event.isOwn = true)
    (h : deviceStep t d event = some (d', calls)) : OwnStep d d' calls := by
  cases event with
  | button pin action => exact Runs.of_result h (gameEventHandler_own d pin action)
  | gameTasks now => exact Runs.of_result h (gameTasks_turn t d now).own
  | serviceTasks => exact Runs.of_result h (serviceTasks_own d)
  | setMyScore score => exact Runs.of_result h (gameSetMyScore_own d score)
  | incrementMyScore points => exact Runs.of_result h (gameSetMyScore_own d _)
  | tryConnect => exact Runs.of_result h (serviceTryConnect_own d)
  | ble => cases hown

end WaterBall
