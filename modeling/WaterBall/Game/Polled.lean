import WaterBall.Service.Requests
import WaterBall.Game.OwnSteps

/-!
# What a peer reads of what is indicated to it

The server's score and the game's state are indicated when they change and can
be read at any time. The score that is read is the one that was indicated last,
sent or not. The state is indicated from the game's own variable; the one that
is read is set nowhere.
-/

namespace WaterBall

open Support

inductive Indication
  | serverScore (score : UInt32)
  | gameState (state : UInt32)
  deriving DecidableEq

def Indication.score? : Indication → Option UInt32
  | serverScore score => some score
  | gameState _ => none

def Indication.state? : Indication → Option UInt32
  | serverScore _ => none
  | gameState state => some state

/-- The value that was passed last, or the initial one. -/
def lastPassed (value : Indication → Option UInt32) (seen : List Indication) : UInt32 :=
  (seen.filterMap value).getLast?.getD 0

/-- The events of a device, and the two functions called from anywhere. -/
inductive PolledEvent
  | indicateServerScore (score : UInt32)
  | indicateGameState (state : UInt32)
  | device (event : DeviceEvent)
  deriving DecidableEq

def polledStep (t : AppTimer) (d : Device) : PolledEvent → Option (Device × List DeviceCall)
  | .indicateServerScore score =>
    let (server, calls) := serviceServerIndicateServerScore d.server score
    some ({ d with server }, calls.map .server)
  | .indicateGameState state =>
    some (d, (serviceServerIndicateGameState d.server state).map .server)
  | .device event => deviceStep t d event

section
variable (d : Device)

def Device.indicatesScore (score : UInt32) : List Indication :=
  if d.isServiceServer then [.serverScore score] else []

/-- The call that `game_tasks` makes on a server. -/
def Device.indicatesState (state : GameState) : List Indication :=
  if d.isServiceServer then [.gameState state.value.toUInt32] else []

def Device.indicates : PolledEvent → List Indication
  | .indicateServerScore score => [.serverScore score]
  | .indicateGameState state => [.gameState state]
  | .device (.gameTasks _) =>
    match d.game.gameState with
    | .init => d.indicatesState .init
    | .initializingGame => d.indicatesState .initializingGame ++ d.indicatesScore 0
    | _ => []
  | .device (.button pin .push) =>
    if d.game.gameState = .playing then
      match pin with
      | .button3 => d.indicatesScore (incremented d.game.myScore 1)
      | .button4 => d.indicatesScore maxScore
      | _ => []
    else []
  | .device (.setMyScore score) => d.indicatesScore score
  | .device (.incrementMyScore points) => d.indicatesScore (incremented d.game.myScore points)
  | _ => []

end

-- ---------------------------------------------------------------------------
-- What is sent and stored is what was passed
-- ---------------------------------------------------------------------------

def Indication.sent (s : ServiceServer) : Indication → List DeviceCall
  | serverScore score => (serviceServerHvxSend s .indication s.info.serverScoreHandle
      (LittleEndian.wordBytes score)).map .server
  | gameState state => (serviceServerHvxSend s .indication s.info.gameStateHandle
      (LittleEndian.wordBytes state)).map .server

def DeviceCall.isHvx : DeviceCall → Bool
  | server (.gattsHvx ..) => true
  | _ => false

def scoreAfter (before : UInt32) (seen : List Indication) : UInt32 :=
  (seen.filterMap Indication.score?).getLast?.getD before

/-- Of the two values only the score is set, to what was passed, and what was
passed is all that is sent. -/
structure Indicated (d : Device) (seen : List Indication) (d' : Device)
    (calls : List DeviceCall) : Prop where
  sent : calls.filter DeviceCall.isHvx = seen.flatMap (Indication.sent d.server)
  score : d'.server.serverScore = scoreAfter d.server.serverScore seen
  state : d'.server.gameState = d.server.gameState

theorem Indicated.none (hserver : d'.server = d.server)
    (hcalls : ∀ call ∈ calls, call.isHvx = false) : Indicated d [] d' calls where
  sent := List.filter_eq_nil_iff.mpr fun call hcall => by
    rw [hcalls call hcall]
    exact Bool.false_ne_true
  score := by rw [hserver]; rfl
  state := by rw [hserver]

section
variable {d d' : Device} {calls : List DeviceCall}

theorem Indication.sent_isHvx (s : ServiceServer) (i : Indication) :
    (i.sent s).filter DeviceCall.isHvx = [i].flatMap (Indication.sent s) := by
  rw [List.flatMap_singleton]
  cases i <;> (simp only [sent, serviceServerHvxSend]; split <;> rfl)

theorem gameIndicateState_sent (d : Device) (state : GameState) :
    (gameIndicateState d state).filter DeviceCall.isHvx =
      (d.indicatesState state).flatMap (Indication.sent d.server) := by
  unfold gameIndicateState Device.indicatesState
  split
  · exact Indication.sent_isHvx d.server (.gameState _)
  · rfl

theorem scoreAfter_indicatesState (d : Device) (before : UInt32) (state : GameState)
    (seen : List Indication) :
    scoreAfter before (d.indicatesState state ++ seen) = scoreAfter before seen := by
  unfold Device.indicatesState
  split <;> rfl

theorem gameSetMyScore_indicated (d : Device) (score : UInt32) :
    Indicated d (d.indicatesScore score) (gameSetMyScore d score).1
      (gameSetMyScore d score).2 := by
  unfold Device.indicatesScore
  cases hserver : d.isServiceServer with
  | true =>
    rw [gameSetMyScore_asServer hserver]
    exact ⟨Indication.sent_isHvx d.server (.serverScore score), rfl, rfl⟩
  | false =>
    cases hclient : d.isServiceClient with
    | true =>
      rw [gameSetMyScore_asClient hserver hclient]
      exact .none rfl (List.forall_mem_cons.mpr ⟨rfl, nofun⟩)
    | false =>
      rw [gameSetMyScore_alone hserver hclient]
      exact .none rfl nofun

theorem displays_isHvx (h : ∀ call ∈ calls, call.isDisplay = true) :
    ∀ call ∈ calls, call.isHvx = false := by
  intro call hcall
  have hdisplay := h call hcall
  cases call with
  | server call => cases hdisplay
  | _ => rfl

theorem GameTurn.indicated (h : GameTurn d d' calls) (now : Readings) :
    Indicated d (d.indicates (.device (.gameTasks now))) d' calls := by
  cases h with
  | stop hinit =>
    have hscore := scoreAfter_indicatesState d d.server.serverScore .init []
    rw [List.append_nil] at hscore
    simp only [Device.indicates, hinit]
    refine ⟨?_, hscore.symm, rfl⟩
    rw [List.filter_append, gameIndicateState_sent]
    exact List.append_nil _
  | begin ticks hbegin hset =>
    have hscore := gameSetMyScore_indicated
      { d with game.theirScore := d.theirView, game.gameInitTicks := ticks } 0
    rw [hset] at hscore
    simp only [Device.indicates, hbegin]
    refine ⟨?_, ?_, hscore.state⟩
    · rw [List.filter_append, gameIndicateState_sent, List.flatMap_append, hscore.sent]
      rfl
    · rw [scoreAfter_indicatesState]
      exact hscore.score
  | countDown ms state hcounting =>
    simp only [Device.indicates, hcounting]
    exact .none rfl (displays_isHvx (gamePrintStart_isDisplay ms))
  | play ticks hstart =>
    simp only [Device.indicates, hstart]
    exact .none rfl nofun
  | score ms state hplaying =>
    simp only [Device.indicates, hplaying]
    exact .none rfl (by simp [gamePrintTime, gamePrintScore, DeviceCall.isHvx])
  | verdict ticks led3 hover =>
    simp only [Device.indicates, hover]
    exact .none rfl (by simp [gamePrintEnd, DeviceCall.isHvx])
  | dry hwater =>
    simp only [Device.indicates, hwater]
    exact .none rfl nofun
  | wait hwait =>
    simp only [Device.indicates]
    split
    · exact absurd ‹_› hwait.1
    · exact absurd ‹_› hwait.2.1
    · exact .none rfl nofun

theorem gameEventHandler_indicated (d : Device) (pin : Button) (action : ButtonAction) :
    Indicated d (d.indicates (.device (.button pin action))) (gameEventHandler d pin action).1
      (gameEventHandler d pin action).2 := by
  cases action with
  | release => cases pin <;> exact .none rfl nofun
  | push =>
    simp only [gameEventHandler, Device.indicates, reduceCtorEq, ↓reduceIte]
    by_cases hplaying : d.game.gameState = .playing
    · simp only [hplaying, ↓reduceIte]
      cases pin with
      | button1 => exact .none rfl nofun
      | button2 => exact .none rfl nofun
      | button3 => exact gameSetMyScore_indicated d _
      | button4 => exact gameSetMyScore_indicated d _
    · simp only [hplaying, ↓reduceIte]
      cases pin with
      | button1 => exact .none rfl nofun
      | button2 =>
        dsimp only
        split <;> exact .none rfl nofun
      | button3 => exact .none rfl nofun
      | button4 =>
        dsimp only
        split <;> exact .none rfl nofun

theorem serviceServerOnBleEvt_answers {s s' : ServiceServer} {replies : List ServerCall}
    (h : serviceServerOnBleEvt s evt = some (s', replies)) :
    s'.serverScore = s.serverScore ∧ s'.gameState = s.gameState ∧
      ∀ reply ∈ replies, (DeviceCall.server reply).isHvx = false := by
  cases evt with
  | gattsAuthorizeRead uuid offset =>
    obtain ⟨state, calls, hends, -, hreplies⟩ := serviceServerAuthorizeRead_ends s uuid offset
    cases (congrArg some hends).symm.trans h
    refine ⟨rfl, rfl, fun call hcall => ?_⟩
    obtain ⟨reply, rfl, -⟩ := hreplies call hcall
    rfl
  | gattsAuthorizeWrite uuid data beyond =>
    simp only [serviceServerOnBleEvt_write, serviceServerAuthorizeWrite] at h
    split at h
    case h_1 callback hcallback =>
      obtain ⟨r, rfl⟩ := writeCallback_eq_some hcallback
      cases (writeCallback_register r).symm.trans hcallback
      obtain ⟨bytes, -, h⟩ := Option.bind_eq_some_iff.mp h
      cases h
      obtain ⟨-, hscore, hstate, -⟩ := r.set_frame s (LittleEndian.word bytes)
      exact ⟨hscore, hstate, List.forall_mem_singleton.mpr rfl⟩
    case h_2 =>
      cases h
      exact ⟨rfl, rfl, List.forall_mem_nil _⟩
  | _ =>
    cases h
    exact ⟨rfl, rfl, by simp [DeviceCall.isHvx]⟩

theorem serviceServerTasks_values (s : ServiceServer) :
    (serviceServerTasks s).serverScore = s.serverScore ∧
      (serviceServerTasks s).gameState = s.gameState := by
  unfold serviceServerTasks
  split
  case h_3 =>
    dsimp only
    split <;> exact ⟨rfl, rfl⟩
  all_goals exact ⟨rfl, rfl⟩

theorem polledStep_indicated (h : polledStep t d event = some (d', calls)) :
    Indicated d (d.indicates event) d' calls := by
  cases event with
  | indicateServerScore score =>
    cases h
    exact ⟨Indication.sent_isHvx d.server (.serverScore score), rfl, rfl⟩
  | indicateGameState state =>
    cases h
    exact ⟨Indication.sent_isHvx d.server (.gameState state), rfl, rfl⟩
  | device event =>
    cases event with
    | gameTasks now => exact Runs.of_result h ((gameTasks_turn t d now).indicated now)
    | button pin action => exact Runs.of_result h (gameEventHandler_indicated d pin action)
    | setMyScore score => exact Runs.of_result h (gameSetMyScore_indicated d score)
    | incrementMyScore points => exact Runs.of_result h (gameSetMyScore_indicated d _)
    | serviceTasks =>
      cases h
      obtain ⟨hscore, hstate⟩ := serviceServerTasks_values d.server
      exact ⟨rfl, hscore, hstate⟩
    | tryConnect =>
      refine Runs.of_result (P := Indicated d []) h (.none rfl ?_)
      intro call hcall
      obtain ⟨clientCall, -, rfl⟩ := List.mem_map.mp hcall
      rfl
    | ble evt uninit =>
      obtain ⟨client, clientCalls, server, serverCalls, -, hserver, rfl, rfl⟩ :=
        serviceOnBleEvt_ends h
      obtain ⟨hscore, hstate, hreplies⟩ := serviceServerOnBleEvt_answers hserver
      refine ⟨List.filter_eq_nil_iff.mpr fun call hcall => ?_, hscore, hstate⟩
      apply Bool.eq_false_iff.mp
      rcases List.mem_append.mp hcall with hcall | hcall
      · obtain ⟨clientCall, -, rfl⟩ := List.mem_map.mp hcall
        rfl
      · obtain ⟨reply, hmem, rfl⟩ := List.mem_map.mp hcall
        exact hreplies reply hmem

-- ---------------------------------------------------------------------------
-- Whole runs
-- ---------------------------------------------------------------------------

/-- A read at offset 0 is answered with the value. -/
def Device.ReadsAs (d : Device) (uuid : UInt16) (value : UInt32) : Prop :=
  ∀ uninit, serviceOnBleEvt uninit d (.gattsAuthorizeRead uuid 0) =
    some (d, [.server (.gattsReplyRead d.server.connHandle
      { gattStatus := .success
        update := true
        offset := 0
        len := 4
        data := some (LittleEndian.wordBytes value) })])

/-- What was passed to the two functions in a run. -/
def passed (t : AppTimer) (d : Device) (events : List PolledEvent) : List Indication :=
  Runs.observed (polledStep t) Device.indicates d events

theorem Device.reads_iff (d : Device) (c : Readable) (hafter : c.after d.server = d.server)
    (hvalue : c.value d.server = LittleEndian.wordBytes stored) (value : UInt32) :
    d.ReadsAs c.uuid value ↔ value = stored := by
  have hlength : c.length = 4 := by
    rw [← c.length_value d.server, hvalue, LittleEndian.length_wordBytes]
  have hread : serviceServerOnBleEvt d.server (.gattsAuthorizeRead c.uuid 0) =
      some (d.server, [.gattsReplyRead d.server.connHandle
        { gattStatus := .success
          update := true
          offset := 0
          len := 4
          data := some (LittleEndian.wordBytes stored) }]) := by
    rw [c.read_of_le d.server (by simp), hafter, hlength, hvalue]
    rfl
  have hevent : ∀ uninit, serviceOnBleEvt uninit d (.gattsAuthorizeRead c.uuid 0) =
      some (d, [.server (.gattsReplyRead d.server.connHandle
        { gattStatus := .success
          update := true
          offset := 0
          len := 4
          data := some (LittleEndian.wordBytes stored) })]) := by
    intro uninit
    have hclient : serviceClientOnBleEvt uninit d.client (.gattsAuthorizeRead c.uuid 0) =
        some (d.client, []) := rfl
    simp only [serviceOnBleEvt, hclient, gameTakeState, List.foldl_nil, hread, Option.bind_eq_bind,
      Option.bind_some, Option.pure_def, List.map_nil, List.map_cons, List.nil_append]
  constructor
  · intro h
    have heq := (hevent 0).symm.trans (h 0)
    simp only [Option.some.injEq, Prod.mk.injEq, List.cons.injEq, DeviceCall.server.injEq,
      ServerCall.gattsReplyRead.injEq, ReadReply.mk.injEq, true_and, and_true] at heq
    rw [← LittleEndian.word_wordBytes_self value, ← heq, LittleEndian.word_wordBytes_self]
  · rintro rfl uninit
    exact hevent uninit

/-- The stored score follows what is passed; the stored state stays the initial one. -/
structure Device.Stores (d : Device) (seen : List Indication) : Prop where
  score : d.server.serverScore = lastPassed Indication.score? seen
  state : d.server.gameState = 0

theorem deviceBoot_stores (valueHandles : List UInt16) : (deviceBoot valueHandles).Stores [] where
  score := serviceServerInit_keeps (·.serverScore) (fun _ _ _ _ => rfl) valueHandles
  state := serviceServerInit_keeps (·.gameState) (fun _ _ _ _ => rfl) valueHandles

theorem Device.Stores.step (hd : d.Stores seen) (h : polledStep t d event = some (d', calls)) :
    d'.Stores (seen ++ d.indicates event) := by
  have hindicated := polledStep_indicated h
  refine ⟨?_, hindicated.state.trans hd.state⟩
  rw [hindicated.score, hd.score, scoreAfter, lastPassed, lastPassed, List.filterMap_append,
    List.getLast?_append]
  cases ((d.indicates event).filterMap Indication.score?).getLast? <;> rfl

theorem polledRun_stores (valueHandles : List UInt16)
    (hrun : Runs.run (polledStep t) (deviceBoot valueHandles) events = some (d, calls)) :
    d.Stores (passed t (deviceBoot valueHandles) events) :=
  (Runs.guarded_true (deviceBoot valueHandles) events).observes (P := Device.Stores)
    (fun _ _ _ _ _ hd _ hstep => hd.step hstep) [] (deviceBoot_stores valueHandles) hrun

/-- After any run, a read of the score gives what was passed last, and a read
of the state does so exactly when that is the state a game is stopped in. What
the next event passes is what it sends, as far as there is a connection. -/
theorem device_reads_as_indicated (t : AppTimer) (valueHandles : List UInt16)
    (events : List PolledEvent) (d : Device) (calls : List DeviceCall)
    (hrun : Runs.run (polledStep t) (deviceBoot valueHandles) events = some (d, calls)) :
    let seen := passed t (deviceBoot valueHandles) events
    d.ReadsAs serviceServerScoreUuid (lastPassed Indication.score? seen) ∧
      (d.ReadsAs serviceGameStateUuid (lastPassed Indication.state? seen) ↔
        lastPassed Indication.state? seen = 0) ∧
      ∀ event d' sent, polledStep t d event = some (d', sent) →
        Indicated d (d.indicates event) d' sent := by
  intro seen
  have hstores := polledRun_stores valueHandles hrun
  refine ⟨?_, ?_, fun event d' sent hstep => polledStep_indicated hstep⟩
  · exact (d.reads_iff .serverScore rfl rfl _).mpr hstores.score.symm
  · rw [← hstores.state]
    exact d.reads_iff .gameState rfl rfl _

def gameBegun : List PolledEvent :=
  [.device (.gameTasks ⟨7, 7⟩), .device (.ble (.gapConnected 0) 0),
    .device (.ble (.gattsAuthorizeRead serviceInfoUuid 0) 0),
    .device (.button .button4 .push), .device (.gameTasks ⟨8, 8⟩)]

theorem device_reads_as_indicated_gameBegun : ∃ d calls,
    Runs.run (polledStep appTimerSdk) (deviceBoot []) gameBegun = some (d, calls) ∧
      passed appTimerSdk (deviceBoot []) gameBegun = [.gameState 2, .serverScore 0] ∧
      d.ReadsAs serviceServerScoreUuid 0 := by
  have hseen : passed appTimerSdk (deviceBoot []) gameBegun = [.gameState 2, .serverScore 0] := by
    decide +kernel
  have hfinal : (Runs.run (polledStep appTimerSdk) (deviceBoot []) gameBegun).map
      (fun final => final.1.game.gameState) = some .countingDown := by
    decide +kernel
  obtain ⟨⟨d, calls⟩, hrun, -⟩ := Option.map_eq_some_iff.mp hfinal
  have hreads := (device_reads_as_indicated appTimerSdk [] gameBegun d calls hrun).1
  rw [hseen] at hreads
  exact ⟨d, calls, hrun, hseen, hreads⟩

/-- The state `GAME_STATE_INITIALIZING_GAME` goes out as 2 and is read as 0. -/
theorem device_reads_stale_state : ∃ d calls,
    Runs.run (polledStep appTimerSdk) (deviceBoot []) gameBegun = some (d, calls) ∧
      passed appTimerSdk (deviceBoot []) gameBegun = [.gameState 2, .serverScore 0] ∧
      d.ReadsAs serviceGameStateUuid 0 ∧ ¬ d.ReadsAs serviceGameStateUuid 2 := by
  have hfinal : (Runs.run (polledStep appTimerSdk) (deviceBoot []) gameBegun).map
      (fun final => final.1.server.gameState) = some 0 := by
    decide +kernel
  obtain ⟨⟨d, calls⟩, hrun, hstate⟩ := Option.map_eq_some_iff.mp hfinal
  refine ⟨d, calls, hrun, by decide +kernel, ?_, fun hreads => ?_⟩
  · exact (d.reads_iff .gameState rfl rfl 0).mpr hstate.symm
  · have htwo := (d.reads_iff .gameState rfl rfl 2).mp hreads
    exact absurd (htwo.trans hstate) (by decide)

end

end WaterBall
