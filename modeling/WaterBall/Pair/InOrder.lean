import WaterBall.Pair.Agreement

/-!
# What arrives, arrives in order

A device tells its peer of its score and, as the server, of its game, and the
link may break at any time. What the peer hears is part of what was so, in the
same order: things are missed, but nothing is made up or comes back.
-/

namespace WaterBall

open Support

-- ---------------------------------------------------------------------------
-- Sides
-- ---------------------------------------------------------------------------

section
variable (p : Pair)

def Pair.device : Side → Device
  | .server => p.server
  | .client => p.client

def Pair.peerScore : Side → UInt32
  | .server => p.server.server.clientScore
  | .client => p.client.client.serverScore

/-- The peer's score that the delivery of a message brings. -/
def Pair.hears (a : Attributes) : Side → PairEvent → Option UInt32
  | .server, .deliverToServer place => p.toServer[place]?.bind (ToServer.score a)
  | .client, .deliverToClient place _ => p.toClient[place]?.bind (ToClient.score a)
  | _, _ => none

end

/-- The peer's scores that have been delivered to the device in a run. -/
def heard (t : AppTimer) (a : Attributes) (side : Side) (p : Pair) (events : List PairEvent) :
    List UInt32 :=
  Runs.observed (pairStep t a) (fun p event => (p.hears a side event).toList) p events

-- ---------------------------------------------------------------------------
-- The peer's score
-- ---------------------------------------------------------------------------

section
variable {a : Attributes} {p p' : Pair}

theorem Pair.peerScore_step (hp : p.Wired a) (hown : event.isOwn = true)
    (h : pairStep t a p event = some (p', outs)) (side : Side) :
    p'.peerScore side = (p.hears a side event).getD (p.peerScore side) := by
  cases event with
  | atServer event =>
    obtain ⟨server, calls, hone, rfl, -⟩ := pairStep_atServer h
    cases side with
    | server => exact (deviceStep_own hown hone).clientScore
    | client => rfl
  | atClient event =>
    obtain ⟨client, calls, hone, rfl, -⟩ := pairStep_atClient h
    cases side with
    | server => rfl
    | client => exact (deviceStep_own hown hone).serverScore
  | deliverToServer place =>
    obtain ⟨message, calls, hmessage, -, hserved, -⟩ := hp.deliverToServer h
    cases side with
    | server =>
      simp only [Pair.hears, hmessage, Option.bind_some]
      exact hserved.clientScore
    | client =>
      obtain ⟨server, scoreConfig, stateConfig, toClient, rfl⟩ := hserved.frame
      rfl
  | deliverToClient place uninit =>
    obtain ⟨message, client, clientCalls, hmessage, hevent, rfl, -⟩ := pairStep_deliverToClient h
    have htaken := (hp.toClient message (List.mem_of_getElem? hmessage)).taken hevent
    cases side with
    | server => rfl
    | client =>
      simp only [Pair.hears, hmessage, Option.bind_some]
      exact htaken.serverScore
  | connect serverConn clientConn =>
    obtain ⟨-, -, rfl⟩ := pairStep_connect h
    cases side <;> rfl
  | disconnect =>
    obtain ⟨-, -, rfl⟩ := pairStep_disconnect h
    cases side <;> rfl

end

-- ---------------------------------------------------------------------------
-- What a step sends
-- ---------------------------------------------------------------------------

/-- The state that a device indicates before a turn of its game. -/
def Device.turned (d : Device) : DeviceEvent → Option GameState
  | .gameTasks _ =>
    if d.game.gameState = .init ∨ d.game.gameState = .initializingGame then some d.game.gameState
    else none
  | _ => none

/-- The calls that carry a score. -/
inductive ScoreCall (s : ServiceServer) : DeviceCall → Prop
  | score (connHandle : UInt16) (value : List UInt8) :
      ScoreCall s (.server (.gattsHvx connHandle s.info.serverScoreHandle .indication value))
  | write (connHandle handle : UInt16) (value : List UInt8) :
      ScoreCall s (.client (.gattcWrite connHandle .request handle value))

/-- The calls that carry nothing to the peer. -/
inductive OtherCall : DeviceCall → Prop
  | discover (connHandle startHandle : UInt16) :
      OtherCall (.client (.gattcPrimaryServicesDiscover connHandle startHandle))
  | display (call : DeviceCall) (hdisplay : call.isDisplay = true) : OtherCall call

/-- A step indicates the state of a turn, then sends its score at most once. -/
structure SentCalls (d : Device) (state : Option GameState) (calls : List DeviceCall) : Prop where
  split : ∃ scores others,
    calls = (state.map (gameIndicateState d)).getD [] ++ scores ++ others ∧
      scores.length ≤ 1 ∧ (∀ call ∈ scores, ScoreCall d.server call) ∧
      ∀ call ∈ others, OtherCall call

section
variable {d d' : Device} {calls : List DeviceCall}

theorem SentCalls.of_others (h : ∀ call ∈ calls, OtherCall call) : SentCalls d none calls :=
  ⟨[], calls, rfl, Nat.zero_le 1, nofun, h⟩

theorem SentCalls.of_displays (h : ∀ call ∈ calls, call.isDisplay = true) :
    SentCalls d none calls :=
  .of_others fun call hcall => .display call (h call hcall)

theorem gameSetMyScore_sent (d : Device) (score : UInt32) :
    (gameSetMyScore d score).2.length ≤ 1 ∧
      ∀ call ∈ (gameSetMyScore d score).2, ScoreCall d.server call := by
  cases hserver : d.isServiceServer with
  | true =>
    rw [gameSetMyScore_asServer hserver]
    refine ⟨?_, fun call hcall => ?_⟩
    · unfold serviceServerHvxSend
      split
      · exact Nat.zero_le 1
      · exact Nat.le_refl 1
    · rw [mem_hvxSend hcall]
      exact .score _ _
  | false =>
    cases hclient : d.isServiceClient with
    | true =>
      rw [gameSetMyScore_asClient hserver hclient]
      exact ⟨Nat.le_refl 1, List.forall_mem_cons.mpr ⟨.write _ _ _, nofun⟩⟩
    | false =>
      rw [gameSetMyScore_alone hserver hclient]
      exact ⟨Nat.zero_le 1, nofun⟩

theorem SentCalls.of_score (d : Device) (score : UInt32) :
    SentCalls d none (gameSetMyScore d score).2 := by
  obtain ⟨hlength, hcalls⟩ := gameSetMyScore_sent d score
  exact ⟨_, [], (List.append_nil _).symm, hlength, hcalls, nofun⟩

theorem gameEventHandler_sent (d : Device) (pin : Button) (action : ButtonAction) :
    SentCalls d none (gameEventHandler d pin action).2 := by
  rcases gameEventHandler_cases d pin action with ⟨_, -, hnone⟩ | ⟨-, score, hset⟩
  · rw [hnone]
    exact .of_others nofun
  · rw [hset]
    exact .of_score d score

theorem Device.turned_none (now : Readings)
    (h : d.game.gameState ≠ .init ∧ d.game.gameState ≠ .initializingGame) :
    d.turned (.gameTasks now) = none := if_neg (not_or.mpr h)

theorem Device.turned_some (h : d.turned event = some state) :
    state = .init ∨ state = .initializingGame := by
  cases event with
  | gameTasks now =>
    simp only [Device.turned, Option.ite_none_right_eq_some, Option.some.injEq] at h
    obtain ⟨hstate, rfl⟩ := h
    exact hstate
  | _ => cases h

theorem GameTurn.sent (now : Readings) (h : GameTurn d d' calls) :
    SentCalls d (d.turned (.gameTasks now)) calls := by
  cases h with
  | stop hstate =>
    have hturned : d.turned (.gameTasks now) = some .init := by simp [Device.turned, hstate]
    rw [hturned]
    refine ⟨[], [.sevenSegmentBlankDigits timeAddress, .sevenSegmentBlankDigits scoreAddress], ?_,
      Nat.zero_le 1, nofun, ?_⟩
    · rw [List.append_nil]
      rfl
    · exact List.forall_mem_cons.mpr ⟨.display _ rfl, List.forall_mem_cons.mpr
        ⟨.display _ rfl, nofun⟩⟩
  | begin ticks hstate hset =>
    have hturned : d.turned (.gameTasks now) = some .initializingGame := by
      simp [Device.turned, hstate]
    have hsent := gameSetMyScore_sent
      { d with game.theirScore := d.theirView, game.gameInitTicks := ticks } 0
    rw [hset] at hsent
    rw [hturned]
    exact ⟨_, [], (List.append_nil _).symm, hsent.1, hsent.2, nofun⟩
  | countDown ms state hstate =>
    rw [Device.turned_none now (by simp [hstate])]
    exact .of_displays (gamePrintStart_isDisplay ms)
  | play ticks hstate =>
    rw [Device.turned_none now (by simp [hstate])]
    exact .of_others nofun
  | score ms state hstate =>
    rw [Device.turned_none now (by simp [hstate])]
    refine .of_displays (List.forall_mem_append.mpr ⟨?_, ?_⟩)
    · exact List.forall_mem_cons.mpr ⟨rfl, List.forall_mem_cons.mpr ⟨rfl, nofun⟩⟩
    · exact List.forall_mem_cons.mpr ⟨rfl, List.forall_mem_cons.mpr ⟨rfl, nofun⟩⟩
  | verdict ticks led3 hstate =>
    rw [Device.turned_none now (by simp [hstate])]
    exact .of_displays (List.forall_mem_cons.mpr ⟨rfl, List.forall_mem_cons.mpr ⟨rfl, nofun⟩⟩)
  | dry hstate =>
    rw [Device.turned_none now (by simp [hstate])]
    exact .of_others nofun
  | wait hstate =>
    rw [Device.turned_none now ⟨hstate.1, hstate.2.1⟩]
    exact .of_others nofun

theorem deviceStep_sent (hown : event.isOwn = true)
    (h : deviceStep t d event = some (d', calls)) : SentCalls d (d.turned event) calls := by
  cases event with
  | button pin action =>
    exact Runs.of_result (P := fun _ => SentCalls d none) h (gameEventHandler_sent d pin action)
  | gameTasks now =>
    exact Runs.of_result (P := fun _ => SentCalls d (d.turned (.gameTasks now))) h
      ((gameTasks_turn t d now).sent now)
  | serviceTasks =>
    exact Runs.of_result (P := fun _ => SentCalls d none) h (.of_others nofun)
  | setMyScore score =>
    exact Runs.of_result (P := fun _ => SentCalls d none) h (.of_score d score)
  | incrementMyScore points =>
    exact Runs.of_result (P := fun _ => SentCalls d none) h (.of_score d _)
  | tryConnect =>
    refine Runs.of_result (P := fun _ => SentCalls d none) h (.of_others ?_)
    unfold serviceTryConnect serviceClientTryConnect
    dsimp only
    split
    · exact nofun
    · exact List.forall_mem_cons.mpr ⟨.discover _ _, nofun⟩
  | ble => cases hown

end

-- ---------------------------------------------------------------------------
-- The messages of a step
-- ---------------------------------------------------------------------------

def ToClient.gameState (a : Attributes) : ToClient → Option GameState
  | handleValue handle _ data =>
    if handle = a.info.gameStateHandle then some (.ofValue (LittleEndian.word data).toUInt8)
    else none
  | _ => none

theorem sublist_singleton {α : Type} {values : List α} {value : α} (hlength : values.length ≤ 1)
    (hvalues : ∀ v ∈ values, v = value) : values.Sublist [value] := by
  match values, hlength with
  | [], _ => exact List.nil_sublist _
  | [v], _ => rw [hvalues v List.mem_cons_self]

theorem filterMap_silent {μ ω : Type} {calls : List DeviceCall} {message : DeviceCall → Option μ}
    {read : μ → Option ω} (h : ∀ call ∈ calls, ∀ m, message call = some m → read m = none) :
    (calls.filterMap message).filterMap read = [] := by
  refine List.filterMap_eq_nil_iff.mpr fun m hm => ?_
  obtain ⟨call, hcall, hof⟩ := List.mem_filterMap.mp hm
  exact h call hcall m hof

section
variable {a : Attributes} {p p' : Pair}

theorem ScoreCall.gameState {call : DeviceCall} (h : ScoreCall p.server.server call)
    (hinfo : p.server.server.info = a.info) {m : ToClient} (hm : p.indication a call = some m) :
    m.gameState a = none := by
  cases h with
  | score connHandle value =>
    obtain ⟨-, rfl⟩ := Pair.indication_hvx hm
    rw [hinfo]
    exact if_neg a.gameState_ne_serverScore.symm
  | write => cases hm

theorem OtherCall.indication {call : DeviceCall} (h : OtherCall call) (p : Pair) :
    p.indication a call = none := by
  cases h with
  | discover => rfl
  | display call hdisplay => exact (DeviceCall.display_silent hdisplay).1

theorem OtherCall.request {call : DeviceCall} (h : OtherCall call) {m : ToServer}
    (hm : p.request call = some m) : m.score a = none := by
  obtain ⟨-, hm⟩ := Pair.request_eq_some hm
  cases h with
  | discover =>
    cases hm
    rfl
  | display call hdisplay =>
    cases (DeviceCall.display_silent (p := p) (a := a) hdisplay).2.symm.trans hm

theorem gameIndicateState_message (hinfo : p.server.server.info = a.info)
    {call : DeviceCall} (hcall : call ∈ gameIndicateState p.server state) {m : ToClient}
    (hm : p.indication a call = some m) :
    m = .handleValue a.info.gameStateHandle .indication (indicated state) := by
  unfold gameIndicateState at hcall
  split at hcall
  · rw [mem_hvxSend hcall] at hm
    obtain ⟨-, rfl⟩ := Pair.indication_hvx hm
    rw [← hinfo]
    rfl
  · cases hcall

theorem gameIndicateState_length (d : Device) (state : GameState) :
    (gameIndicateState d state).length ≤ 1 := by
  unfold gameIndicateState serviceServerIndicateGameState serviceServerHvxSend
  split
  · split
    · exact Nat.zero_le 1
    · exact Nat.le_refl 1
  · exact Nat.zero_le 1

theorem gameState_indicated (a : Attributes) (hstate : state = .init ∨ state = .initializingGame) :
    (ToClient.handleValue a.info.gameStateHandle .indication (indicated state)).gameState a =
      some state := by
  rw [ToClient.gameState, if_pos rfl]
  rcases hstate with rfl | rfl
  · rfl
  · rfl

/-- What the server sends in a step is its score after it. -/
theorem Pair.Wired.sentScore {server : Device} {calls : List DeviceCall} (hp : p.Wired a)
    (hown : event.isOwn = true) (h : deviceStep t p.server event = some (server, calls)) :
    ((calls.filterMap (p.indication a)).filterMap (ToClient.score a)).Sublist
      [server.game.myScore] := by
  obtain ⟨scores, others, hsplit, hlength, -, hothers⟩ := (deviceStep_sent hown h).split
  refine sublist_singleton ?_ fun v hv => ?_
  · have hstates : ((((p.server.turned event).map (gameIndicateState p.server)).getD []).filterMap
        (p.indication a)).filterMap (ToClient.score a) = [] := by
      refine filterMap_silent fun call hcall m hm => ?_
      cases hturned : p.server.turned event with
      | none =>
        rw [hturned] at hcall
        cases hcall
      | some state =>
        rw [hturned] at hcall
        rw [gameIndicateState_message hp.serverInfo hcall hm]
        exact if_neg a.gameState_ne_serverScore
    have hrest : (others.filterMap (p.indication a)).filterMap (ToClient.score a) = [] :=
      filterMap_silent fun call hcall m hm => by
        cases (hothers call hcall).indication p |>.symm.trans hm
    rw [hsplit, List.filterMap_append, List.filterMap_append, List.filterMap_append,
      List.filterMap_append, hstates, hrest, List.nil_append, List.append_nil]
    exact Nat.le_trans (List.length_filterMap_le ..) <|
      Nat.le_trans (List.length_filterMap_le ..) hlength
  · obtain ⟨m, hm, hscore⟩ := List.mem_filterMap.mp hv
    obtain ⟨call, hcall, hof⟩ := List.mem_filterMap.mp hm
    exact (hp.indication ((deviceStep_own hown h).calls call hcall) hof).2 v hscore

/-- What the client sends in a step is its score after it. -/
theorem Pair.Wired.sentWrite {client : Device} {calls : List DeviceCall} (hp : p.Wired a)
    (hown : event.isOwn = true) (h : deviceStep t p.client event = some (client, calls)) :
    ((calls.filterMap p.request).filterMap (ToServer.score a)).Sublist [client.game.myScore] := by
  obtain ⟨scores, others, hsplit, hlength, -, hothers⟩ := (deviceStep_sent hown h).split
  refine sublist_singleton ?_ fun v hv => ?_
  · have hstates : ((((p.client.turned event).map (gameIndicateState p.client)).getD []).filterMap
        p.request).filterMap (ToServer.score a) = [] := by
      have hsilent : ∀ state, gameIndicateState p.client state = [] := fun state =>
        if_neg (by rw [hp.clientRole]; exact Bool.false_ne_true)
      cases p.client.turned event with
      | none => rfl
      | some state =>
        rw [Option.map_some, Option.getD_some, hsilent]
        rfl
    have hrest : (others.filterMap p.request).filterMap (ToServer.score a) = [] :=
      filterMap_silent fun call hcall m hm => (hothers call hcall).request hm
    rw [hsplit, List.filterMap_append, List.filterMap_append, List.filterMap_append,
      List.filterMap_append, hstates, hrest, List.nil_append, List.append_nil]
    exact Nat.le_trans (List.length_filterMap_le ..) <|
      Nat.le_trans (List.length_filterMap_le ..) hlength
  · obtain ⟨m, hm, hscore⟩ := List.mem_filterMap.mp hv
    obtain ⟨call, hcall, hof⟩ := List.mem_filterMap.mp hm
    have hsent := hp.request ((deviceStep_own hown h).calls call hcall)
      (Pair.request_eq_some hof).2
    exact hsent.2 v hscore

/-- The game states that the server sends in a step are that of its turn. -/
theorem Pair.Wired.sentStates {server : Device} {calls : List DeviceCall} (hp : p.Wired a)
    (hown : event.isOwn = true) (h : deviceStep t p.server event = some (server, calls)) :
    ((calls.filterMap (p.indication a)).filterMap (ToClient.gameState a)).Sublist
      (p.server.turned event).toList := by
  obtain ⟨scores, others, hsplit, -, hscores, hothers⟩ := (deviceStep_sent hown h).split
  have hnone : (scores.filterMap (p.indication a)).filterMap (ToClient.gameState a) = [] :=
    filterMap_silent fun call hcall m hm => (hscores call hcall).gameState hp.serverInfo hm
  have hrest : (others.filterMap (p.indication a)).filterMap (ToClient.gameState a) = [] :=
    filterMap_silent fun call hcall m hm => by
      cases (hothers call hcall).indication p |>.symm.trans hm
  rw [hsplit, List.filterMap_append, List.filterMap_append, List.filterMap_append,
    List.filterMap_append, hnone, hrest, List.append_nil, List.append_nil]
  cases hturned : p.server.turned event with
  | none => exact List.nil_sublist _
  | some state =>
    refine sublist_singleton ?_ fun v hv => ?_
    · exact Nat.le_trans (List.length_filterMap_le ..) <|
        Nat.le_trans (List.length_filterMap_le ..) (gameIndicateState_length _ _)
    · obtain ⟨m, hm, hstate⟩ := List.mem_filterMap.mp hv
      obtain ⟨call, hcall, hof⟩ := List.mem_filterMap.mp hm
      rw [gameIndicateState_message hp.serverInfo hcall hof] at hstate
      exact (Option.some.inj ((gameState_indicated a (Device.turned_some hturned)).symm.trans
        hstate)).symm

end

-- ---------------------------------------------------------------------------
-- Scores
-- ---------------------------------------------------------------------------

def Side.peer : Side → Side
  | server => client
  | client => server

/-- The messages arrive in order. -/
def PairEvent.inOrder : PairEvent → Bool
  | deliverToServer place => place == 0
  | deliverToClient place _ => place == 0
  | _ => true

/-- The peer's scores that are in flight to a side. -/
def Pair.coming (a : Attributes) (p : Pair) : Side → List UInt32
  | .server => p.scoresToServer a
  | .client => p.scoresToClient a

/-- The score of a side after each step of a run. -/
def scoreHistory (t : AppTimer) (a : Attributes) (side : Side) :
    Pair → List PairEvent → List UInt32 :=
  Runs.observed (pairStep t a) fun p event =>
    ((pairStep t a p event).map fun result => (result.1.device side).game.myScore).toList

theorem front_filterMap {μ ω : Type} {m : μ} {queue : List μ} (f : μ → Option ω)
    (h : queue[0]? = some m) :
    (f m).toList ++ (queue.eraseIdx 0).filterMap f = queue.filterMap f := by
  cases queue with
  | nil => cases h
  | cons m' queue =>
    cases h
    rw [List.filterMap_cons]
    cases f m <;> rfl

section
variable {a : Attributes} {p p' : Pair}

/-- What a step does to the scores in flight to a side. -/
inductive ComingMove (a : Attributes) (p : Pair) (side : Side) (event : PairEvent) (p' : Pair) :
    Prop
  | send (sent : List UInt32) (hnone : p.hears a side event = none)
      (hsent : sent.Sublist [(p'.device side.peer).game.myScore])
      (hcoming : p'.coming a side = p.coming a side ++ sent) : ComingMove a p side event p'
  | arrive (hcoming : p.coming a side = (p.hears a side event).toList ++ p'.coming a side) :
      ComingMove a p side event p'
  | lose (hevent : event = .disconnect) (hcoming : p'.coming a side = []) :
      ComingMove a p side event p'

theorem Pair.coming_move (hp : p.Wired a) (hown : event.isOwn = true)
    (horder : event.inOrder = true) (h : pairStep t a p event = some (p', outs)) (side : Side) :
    ComingMove a p side event p' := by
  cases event with
  | atServer event =>
    obtain ⟨server, calls, hone, rfl, -⟩ := pairStep_atServer h
    cases side with
    | server => exact .arrive rfl
    | client => exact .send _ rfl (hp.sentScore hown hone) (List.filterMap_append ..)
  | atClient event =>
    obtain ⟨client, calls, hone, rfl, -⟩ := pairStep_atClient h
    cases side with
    | server => exact .send _ rfl (hp.sentWrite hown hone) (List.filterMap_append ..)
    | client => exact .arrive rfl
  | deliverToServer place =>
    cases eq_of_beq horder
    obtain ⟨message, calls, hmessage, -, hserved, -⟩ := hp.deliverToServer h
    obtain ⟨server, scoreConfig, stateConfig, toClient, rfl⟩ := hserved.frame
    obtain ⟨answers, htoClient, hanswers⟩ := hserved.answers
    dsimp only at htoClient
    subst htoClient
    cases side with
    | server =>
      refine .arrive ?_
      simp only [Pair.hears, hmessage, Option.bind_some, Pair.coming, Pair.scoresToServer]
      exact (front_filterMap (ToServer.score a) hmessage).symm
    | client =>
      exact .arrive (Mirror.filterMap_append_none fun answer hanswer =>
        (hanswers answer hanswer).2).symm
  | deliverToClient place uninit =>
    cases eq_of_beq horder
    obtain ⟨message, client, clientCalls, hmessage, hevent, rfl, -⟩ := pairStep_deliverToClient h
    have htaken := (hp.toClient message (List.mem_of_getElem? hmessage)).taken hevent
    cases side with
    | server =>
      refine .arrive (Mirror.filterMap_append_none fun request hrequest => ?_).symm
      obtain ⟨call, hcall, hof⟩ := List.mem_filterMap.mp hrequest
      obtain ⟨clientCall, hmem, rfl⟩ := List.mem_map.mp hcall
      exact (htaken.requests clientCall hmem request (Pair.request_eq_some hof).2).2
    | client =>
      refine .arrive ?_
      simp only [Pair.hears, hmessage, Option.bind_some, Pair.coming, Pair.scoresToClient]
      exact (front_filterMap (ToClient.score a) hmessage).symm
  | connect serverConn clientConn =>
    obtain ⟨-, -, rfl⟩ := pairStep_connect h
    cases side <;> exact .arrive rfl
  | disconnect =>
    obtain ⟨-, -, rfl⟩ := pairStep_disconnect h
    cases side <;> exact .lose rfl rfl

/-- What has arrived and what is in flight stay part of what there was. -/
theorem Pair.coming_step (hp : p.Wired a) (hown : event.isOwn = true)
    (horder : event.inOrder = true) (h : pairStep t a p event = some (p', outs)) (side : Side) :
    ((p.hears a side event).toList ++ p'.coming a side).Sublist
      (p.coming a side ++ [(p'.device side.peer).game.myScore]) := by
  cases Pair.coming_move hp hown horder h side with
  | send sent hnone hsent hcoming =>
    rw [hnone, hcoming]
    exact hsent.append_left _
  | arrive hcoming =>
    rw [← hcoming]
    exact List.sublist_append_left ..
  | lose hevent hcoming =>
    have hnone : p.hears a side event = none := by rw [hevent]; cases side <;> rfl
    rw [hnone, hcoming]
    exact List.nil_sublist _

end

/-- For every run of the pair, with any score changes and buttons and with any
number of disconnects: the peer's scores that a device has heard, followed by
those in flight, are among the scores that the peer has had, in the order in
which it had them. What the device takes for the peer's score is the last one
that it heard. -/
theorem pair_scores_in_order (t : AppTimer) (a : Attributes) (clientHandles : List UInt16)
    (events : List PairEvent)
    (hevents : ∀ event ∈ events, event.isOwn = true ∧ event.inOrder = true)
    (hrun : Runs.run (pairStep t a) (pairBoot a clientHandles) events = some (p, outs))
    (side : Side) :
    let heard := heard t a side (pairBoot a clientHandles) events
    (heard ++ p.coming a side).Sublist
        (scoreHistory t a side.peer (pairBoot a clientHandles) events) ∧
      p.peerScore side = heard.getLast?.getD 0 := by
  have hguard : Runs.Guarded (pairStep t a)
      (fun _ event => event.isOwn = true ∧ event.inOrder = true)
      (pairBoot a clientHandles) events :=
    Runs.guarded_of_forall fun event hmem _ => hevents event hmem
  have hboot := pairBoot_wired a clientHandles
  constructor
  · have horder := hguard.inOrder (P := Pair.Wired a) (C := fun p => p.coming a side)
      (T := fun p event => (p.hears a side event).toList)
      (A := fun p event => ((pairStep t a p event).map fun result =>
        (result.1.device side.peer).game.myScore).toList) ?_ hboot hrun
    · have hnone : (pairBoot a clientHandles).coming a side = [] := by cases side <;> rfl
      rwa [hnone] at horder
    · intro p event p' out hp hevent hstep
      rw [hstep]
      exact ⟨hp.step hevent.1 hstep, Pair.coming_step hp hevent.1 hevent.2 hstep side⟩
  · have hview : p.Wired a ∧ p.peerScore side =
        Mirror.latest 0 (heard t a side (pairBoot a clientHandles) events) := by
      refine hguard.observes
        (P := fun p seen => p.Wired a ∧ p.peerScore side = Mirror.latest 0 seen)
        ?_ [] ⟨hboot, by cases side <;> rfl⟩ hrun
      rintro p seen event p' out ⟨hp, hseen⟩ hevent hstep
      refine ⟨hp.step hevent.1 hstep, ?_⟩
      rw [Pair.peerScore_step hp hevent.1 hstep, hseen]
      cases p.hears a side event with
      | none => simp
      | some score => simp
    exact hview.2

theorem pair_scores_in_order_twoScores : ∃ p outs,
    Runs.run (pairStep appTimerSdk attributesAt16) (pairBoot attributesAt16 []) twoScores =
        some (p, outs) ∧ p.peerScore .client = 5 := by
  have hsome : (Runs.run (pairStep appTimerSdk attributesAt16) (pairBoot attributesAt16 [])
      twoScores).isSome := by decide +kernel
  obtain ⟨⟨p, outs⟩, hrun⟩ := Option.isSome_iff_exists.mp hsome
  obtain ⟨-, hview⟩ := pair_scores_in_order appTimerSdk attributesAt16 [] twoScores
    (by decide +kernel) hrun .client
  exact ⟨p, outs, hrun, hview.trans (by decide +kernel)⟩

-- ---------------------------------------------------------------------------
-- Game states
-- ---------------------------------------------------------------------------

/-- The game states in flight to the client. -/
def Pair.statesToClient (a : Attributes) (p : Pair) : List GameState :=
  p.toClient.filterMap (ToClient.gameState a)

/-- The state that a call sets the client's game to. -/
def clientSet : Side × DeviceCall → Option GameState
  | (.client, .client call) => call.stateSet.map fun state => .ofValue state.toUInt8
  | _ => none

/-- The turns of the server's game that stop one or begin one. -/
def PairEvent.turn (p : Pair) : PairEvent → List GameState
  | .atServer event => (p.server.turned event).toList
  | _ => []

section
variable {a : Attributes} {p p' : Pair}

theorem clientSet_server (calls : List DeviceCall) :
    (calls.map (Side.server, ·)).filterMap clientSet = [] := by
  refine List.filterMap_eq_nil_iff.mpr fun out hout => ?_
  obtain ⟨call, -, rfl⟩ := List.mem_map.mp hout
  rfl

theorem OwnCall.clientSet_none (h : OwnCall s c own call) :
    clientSet (Side.client, call) = none := by
  cases h with
  | display call hdisplay =>
    cases call with
    | client => cases hdisplay
    | _ => rfl
  | _ => rfl

theorem Pair.serve_states {m : ToServer} (h : p.serve a m = some (p', calls)) :
    p'.statesToClient a = p.statesToClient a := by
  have hanswers : ∀ (handle : UInt16) (calls : List DeviceCall),
      (calls.filterMap (DeviceCall.answer handle)).filterMap (ToClient.gameState a) = [] := by
    refine fun handle calls => filterMap_silent fun call _ m hm => ?_
    cases call with
    | server serverCall =>
      cases serverCall with
      | gattsReplyRead connHandle reply =>
        obtain ⟨data, -, rfl⟩ := Option.map_eq_some_iff.mp hm
        rfl
      | gattsReplyWrite =>
        cases hm
        rfl
      | _ => cases hm
    | _ => cases hm
  cases m with
  | discover startHandle =>
    cases h
    rw [Pair.statesToClient, List.filterMap_append]
    split
    · exact List.append_nil _
    · exact List.append_nil _
  | read handle offset =>
    obtain ⟨uuid, -, h⟩ := Option.bind_eq_some_iff.mp h
    obtain ⟨⟨d, calls'⟩, -, hret⟩ := Option.bind_eq_some_iff.mp h
    cases hret
    rw [Pair.statesToClient, List.filterMap_append, hanswers, List.append_nil]
    rfl
  | writeRequest handle data =>
    obtain ⟨uuid, -, h⟩ := Option.bind_eq_some_iff.mp h
    obtain ⟨⟨d, calls'⟩, -, hret⟩ := Option.bind_eq_some_iff.mp h
    cases hret
    rw [Pair.statesToClient, List.filterMap_append, hanswers, List.append_nil]
    rfl
  | writeCommand handle data =>
    have hconfigure : p.configure a handle data = p' := congrArg Prod.fst (Option.some.inj h)
    rw [← hconfigure, Pair.configure]
    split
    · rfl
    split
    · rfl
    · rfl
  | confirm handle =>
    cases h
    rfl

theorem ToClient.Proper.clientSet {m : ToClient} (hm : m.Proper a c)
    (h : serviceClientOnBleEvt uninit c m.event = some (c', clientCalls)) :
    ((clientCalls.map DeviceCall.client).map (Side.client, ·)).filterMap clientSet =
      (m.gameState a).toList := by
  have hset : ((clientCalls.map DeviceCall.client).map (Side.client, ·)).filterMap
      WaterBall.clientSet =
        (clientCalls.filterMap ClientCall.stateSet).map fun state => .ofValue state.toUInt8 := by
    rw [List.map_map, List.filterMap_map, List.map_filterMap]
    rfl
  rw [hset]
  cases m with
  | handleValue handle type data =>
    obtain ⟨hinformed, ⟨rfl, -⟩ | ⟨rfl, hdata⟩⟩ := hm
    · have hnone : c.stateIndication (.gattcHvx a.info.serverScoreHandle type data) = none :=
        if_neg fun hstate => hstate.1 (congrArg _ hinformed.info).symm
      rcases serviceClientOnBleEvt_stateSet h with ⟨-, hcalls⟩ | ⟨data', state, hsome, -, -⟩
      · rw [hcalls, ToClient.gameState, if_neg a.gameState_ne_serverScore.symm]
        rfl
      · cases hnone.symm.trans hsome
    · have hindication : c.stateIndication (.gattcHvx a.info.gameStateHandle type data) =
          some data := by
        refine if_pos ?_
        rw [ServiceClient.TakesState, hinformed.info]
        exact ⟨a.gameState_ne_serverScore, a.gameState_ne_gameTime, rfl⟩
      rcases serviceClientOnBleEvt_stateSet h with ⟨hnone, -⟩ | ⟨data', state, hsome, hcopy, hcalls⟩
      · cases hindication.symm.trans hnone
      · cases hindication.symm.trans hsome
        rw [hcalls, ToClient.gameState, if_pos rfl]
        rcases hdata with rfl | rfl
        · rw [indicated, copyToWord_wordBytes] at hcopy
          cases hcopy
          rfl
        · rw [indicated, copyToWord_wordBytes] at hcopy
          cases hcopy
          rfl
  | _ =>
    rcases serviceClientOnBleEvt_stateSet h with ⟨-, hcalls⟩ | ⟨data', state, hdata, -, -⟩
    · rw [hcalls]
      rfl
    · cases hdata

/-- A step sets the client's game to a state in flight, or sends that of a
turn, or loses some. -/
theorem Pair.states_step (hp : p.Wired a) (hown : event.isOwn = true)
    (horder : event.inOrder = true) (h : pairStep t a p event = some (p', outs)) :
    (outs.filterMap clientSet ++ p'.statesToClient a).Sublist
      (p.statesToClient a ++ event.turn p) := by
  cases event with
  | atServer event =>
    obtain ⟨server, calls, hone, rfl, rfl⟩ := pairStep_atServer h
    rw [clientSet_server, List.nil_append, Pair.statesToClient, List.filterMap_append]
    exact (hp.sentStates hown hone).append_left _
  | atClient event =>
    obtain ⟨client, calls, hone, rfl, rfl⟩ := pairStep_atClient h
    have hnone : (calls.map (Side.client, ·)).filterMap clientSet = [] := by
      refine List.filterMap_eq_nil_iff.mpr fun out hout => ?_
      obtain ⟨call, hcall, rfl⟩ := List.mem_map.mp hout
      exact ((deviceStep_own hown hone).calls call hcall).clientSet_none
    rw [hnone]
    exact List.sublist_append_left ..
  | deliverToServer place =>
    obtain ⟨message, calls, -, hserve, rfl⟩ := pairStep_deliverToServer h
    rw [clientSet_server, Pair.serve_states hserve]
    exact List.sublist_append_left ..
  | deliverToClient place uninit =>
    cases eq_of_beq horder
    obtain ⟨message, client, clientCalls, hmessage, hevent, rfl, rfl⟩ :=
      pairStep_deliverToClient h
    rw [(hp.toClient message (List.mem_of_getElem? hmessage)).clientSet hevent,
      Pair.statesToClient, Pair.statesToClient, front_filterMap (ToClient.gameState a) hmessage]
    exact List.sublist_append_left ..
  | connect serverConn clientConn =>
    obtain ⟨-, rfl, rfl⟩ := pairStep_connect h
    exact List.sublist_append_left ..
  | disconnect =>
    obtain ⟨-, rfl, rfl⟩ := pairStep_disconnect h
    exact List.nil_sublist _

end

/-- For every run of the pair, with any buttons and any number of disconnects:
the states that messages have set the client's game to, followed by those in
flight, are among the turns that stopped a game of the server or began one, in
the same order. So the client begins no more games for its server than the
server began. -/
theorem pair_states_in_order (t : AppTimer) (a : Attributes) (clientHandles : List UInt16)
    (events : List PairEvent)
    (hevents : ∀ event ∈ events, event.isOwn = true ∧ event.inOrder = true)
    (hrun : Runs.run (pairStep t a) (pairBoot a clientHandles) events = some (p, outs)) :
    (outs.filterMap clientSet ++ p.statesToClient a).Sublist
      (Runs.observed (pairStep t a) (fun p event => event.turn p) (pairBoot a clientHandles)
        events) := by
  have hguard : Runs.Guarded (pairStep t a)
      (fun _ event => event.isOwn = true ∧ event.inOrder = true)
      (pairBoot a clientHandles) events :=
    Runs.guarded_of_forall fun event hmem _ => hevents event hmem
  rw [Runs.filterMap_outs clientSet hrun]
  refine hguard.inOrder (P := Pair.Wired a) (C := fun p => p.statesToClient a) ?_
    (pairBoot_wired a clientHandles) hrun
  intro p event p' out hp hevent hstep
  rw [Runs.seenOut_of_step hstep]
  exact ⟨hp.step hevent.1 hstep, Pair.states_step hp hevent.1 hevent.2 hstep⟩

/-- The server's game, up to its start. -/
def serverGame : List PairEvent :=
  bringUp ++ [.atServer (.gameTasks ⟨7, 7⟩), .atServer (.button .button2 .push),
    .atServer (.gameTasks ⟨8, 8⟩), .atServer (.gameTasks ⟨163848, 163848⟩)]

def followedGame : List PairEvent :=
  serverGame ++ [.deliverToClient 0 0, .deliverToClient 0 0, .deliverToClient 0 0,
    .atClient (.gameTasks ⟨10, 10⟩), .atClient (.gameTasks ⟨163850, 163850⟩)]

theorem pair_states_in_order_followedGame : ∃ p outs,
    Runs.run (pairStep appTimerSdk attributesAt16) (pairBoot attributesAt16 []) followedGame =
        some (p, outs) ∧ (outs.filterMap clientSet).count .initializingGame ≤ 1 := by
  have hsome : (Runs.run (pairStep appTimerSdk attributesAt16) (pairBoot attributesAt16 [])
      followedGame).isSome := by decide +kernel
  obtain ⟨⟨p, outs⟩, hrun⟩ := Option.isSome_iff_exists.mp hsome
  have horder := pair_states_in_order appTimerSdk attributesAt16 [] followedGame
    (by decide +kernel) hrun
  refine ⟨p, outs, hrun, ?_⟩
  have hset := (List.sublist_append_left ..).trans horder
  exact Nat.le_trans (hset.count_le _) (by decide +kernel)

end WaterBall
