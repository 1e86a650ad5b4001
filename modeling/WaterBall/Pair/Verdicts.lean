import WaterBall.Support.Mirror
import WaterBall.Game.Verdict
import WaterBall.Pair.Wiring

/-!
# Two devices, at most one PASS

Each device decides at a time of its own, on a view of the other's score that
may be old. Scores only grow until the next game starts, so an old view errs
on one side: a device that shows PASS is behind what the other has, and a
device whose verdict has fallen stays where it is.
-/

namespace WaterBall

open Support

structure Pair.Fresh (a : Attributes) (p : Pair) : Prop where
  linked : p.linked = true
  server : p.server.server.state = .connected
  serverConn : p.server.server.connHandle ≠ bleConnHandleInvalid
  serverInfo : p.server.server.info = a.info
  client : p.client.client.state = .connected
  clientKnows : p.client.client.serviceHandle = a.serviceHandle ∧ p.client.client.info = a.info
  clientRole : p.client.server.state ≠ .connected
  scores : p.server.game.myScore = 0 ∧ p.client.game.myScore = 0
  views : p.server.theirView = 0 ∧ p.client.theirView = 0
  toServer : p.toServer = []
  toClient : p.toClient = []

/-- Buttons, turns of the game and deliveries. -/
def PairEvent.isPlay : PairEvent → Bool
  | atServer event => event.isPlay
  | atClient event => event.isPlay
  | deliverToServer _ => true
  | deliverToClient _ _ => true
  | _ => false

/-- Neither device enters the next game from `p` to `p'`. -/
def Pair.EntersNoGame (p p' : Pair) : Prop :=
  (p'.server.game.gameState = .initializingGame → p.server.game.gameState = .initializingGame) ∧
  (p'.client.game.gameState = .initializingGame → p.client.game.gameState = .initializingGame)

instance (p p' : Pair) : Decidable (p.EntersNoGame p') :=
  inferInstanceAs (Decidable ((_ → _) ∧ (_ → _)))

/-- The invariant, with the calls so far. -/
structure Pair.Contest (a : Attributes) (p : Pair) (past : List (Side × DeviceCall)) : Prop where
  wired : p.Wired a
  serverRole : p.server.isServiceServer = true
  clientRole : p.client.isServiceClient = true
  toServer : Mirror.Lags p.client.game.myScore p.server.server.clientScore (p.scoresToServer a)
  toClient : Mirror.Lags p.server.game.myScore p.client.client.serverScore (p.scoresToClient a)
  server : p.server.Fair p.client.game.myScore ((Side.server, passCall) ∈ past)
  client : p.client.Fair p.server.game.myScore ((Side.client, passCall) ∈ past)

theorem Pair.Fresh.contest (h : Pair.Fresh a p) : p.Contest a [] := by
  have hserver : p.server.isServiceServer = true := by
    rw [Device.isServiceServer, serviceServerIsConnected, h.server]
    rfl
  have hclient : p.client.isServiceClient = true := by
    rw [Device.isServiceClient, serviceClientIsConnected, h.client]
    rfl
  have hrole : p.client.isServiceServer = false := beq_eq_false_iff_ne.mpr h.clientRole
  have hinformed : Informed a p.client.client := ⟨h.clientKnows.1, h.clientKnows.2⟩
  have hview := h.views.1
  have hview' := h.views.2
  rw [theirView_asServer hserver] at hview
  rw [theirView_asClient hrole hclient] at hview'
  have hnothing : ∀ side, (side, passCall) ∉ ([] : List (Side × DeviceCall)) :=
    fun side => List.not_mem_nil
  refine ⟨?_, hserver, hclient, ?_, ?_, ⟨fun _ => h.scores.1, fun hp => absurd hp (hnothing _)⟩,
    ⟨fun _ => h.scores.2, fun hp => absurd hp (hnothing _)⟩⟩
  · refine ⟨h.serverInfo, fun _ => h.serverConn, hrole, fun _ => ⟨h.linked, hinformed⟩,
      fun _ => ⟨h.linked, hinformed⟩, ?_, ?_, fun _ => ⟨h.toServer, h.toClient⟩⟩
    · rw [h.toServer]
      exact fun m hm => absurd hm List.not_mem_nil
    · rw [h.toClient]
      exact fun m hm => absurd hm List.not_mem_nil
  · rw [h.scores.2, hview, Pair.scoresToServer, h.toServer]
    exact .start 0
  · rw [h.scores.1, hview', Pair.scoresToClient, h.toClient]
    exact .start 0

-- ---------------------------------------------------------------------------
-- Calls of one side
-- ---------------------------------------------------------------------------

theorem mem_past {side side' : Side} {past : List (Side × DeviceCall)} {calls : List DeviceCall}
    (h : (side, call) ∈ past ++ calls.map (side', ·)) :
    (side, call) ∈ past ∨ side' = side ∧ call ∈ calls := by
  refine (List.mem_append.mp h).imp_right fun hmem => ?_
  obtain ⟨call', hcall, heq⟩ := List.mem_map.mp hmem
  cases heq
  exact ⟨rfl, hcall⟩

theorem mem_past_same {side : Side} {past : List (Side × DeviceCall)} {calls : List DeviceCall}
    (h : (side, call) ∈ past ++ calls.map (side, ·)) : (side, call) ∈ past ∨ call ∈ calls :=
  (mem_past h).imp_right And.right

theorem mem_past_other {side side' : Side} {past : List (Side × DeviceCall)}
    {calls : List DeviceCall} (hne : side ≠ side')
    (h : (side, call) ∈ past ++ calls.map (side', ·)) : (side, call) ∈ past :=
  (mem_past h).resolve_right fun hside => hne hside.1.symm

theorem mem_past_silent {side side' : Side} {past : List (Side × DeviceCall)}
    {calls : List DeviceCall} (hsilent : call ∉ calls)
    (h : (side, call) ∈ past ++ calls.map (side', ·)) : (side, call) ∈ past :=
  (mem_past h).resolve_right fun hside => hsilent hside.2

-- ---------------------------------------------------------------------------
-- Steps
-- ---------------------------------------------------------------------------

section
variable {a : Attributes} {p p' : Pair} {past : List (Side × DeviceCall)}

theorem Pair.Contest.atServer {server : Device} (h : p.Contest a past) (hplay : event.isPlay = true)
    (hone : deviceStep t p.server event = some (server, calls))
    (hentry : server.game.gameState = .initializingGame →
      p.server.game.gameState = .initializingGame) :
    Pair.Contest a { p with server, toClient := p.toClient ++ calls.filterMap (p.indication a) }
      (past ++ calls.map (Side.server, ·)) := by
  have hown : OwnStep p.server server calls :=
    deviceStep_own (by cases event <;> first | rfl | cases hplay) hone
  have hview : p.server.theirView ≤ p.client.game.myScore := by
    rw [theirView_asServer h.serverRole]
    exact h.toServer.view_le
  have hstep := h.server.play hview hplay hone hentry
  refine ⟨h.wired.atServer hown, hown.isServiceServer.trans h.serverRole, h.clientRole,
    ?_, ?_, ?_, ?_⟩
  · rw [hown.clientScore]
    exact h.toServer
  · have hgrown := h.toClient.grow hstep.grows
    unfold Pair.scoresToClient at hgrown ⊢
    rw [List.filterMap_append]
    refine hgrown.send fun v hv => ?_
    obtain ⟨m, hm, hscore⟩ := List.mem_filterMap.mp hv
    obtain ⟨call, hcall, hof⟩ := List.mem_filterMap.mp hm
    rw [(h.wired.indication (hown.calls call hcall) hof).2 v hscore]
    exact UInt32.le_refl _
  · exact hstep.fair.mono (UInt32.le_refl _) mem_past_same
  · exact h.client.mono hstep.grows (mem_past_other (by decide))

theorem Pair.Contest.atClient {client : Device} (h : p.Contest a past) (hplay : event.isPlay = true)
    (hone : deviceStep t p.client event = some (client, calls))
    (hentry : client.game.gameState = .initializingGame →
      p.client.game.gameState = .initializingGame) :
    Pair.Contest a { p with client, toServer := p.toServer ++ calls.filterMap p.request }
      (past ++ calls.map (Side.client, ·)) := by
  have hown : OwnStep p.client client calls :=
    deviceStep_own (by cases event <;> first | rfl | cases hplay) hone
  have hview : p.client.theirView ≤ p.server.game.myScore := by
    rw [theirView_asClient h.wired.clientRole h.clientRole]
    exact h.toClient.view_le
  have hstep := h.client.play hview hplay hone hentry
  have hrole : client.isServiceClient = true := by
    rw [Device.isServiceClient, hstep.client]
    exact h.clientRole
  refine ⟨h.wired.atClient hown, h.serverRole, hrole, ?_, ?_, ?_, ?_⟩
  · have hgrown := h.toServer.grow hstep.grows
    unfold Pair.scoresToServer at hgrown ⊢
    rw [List.filterMap_append]
    refine hgrown.send fun v hv => ?_
    obtain ⟨m, hm, hscore⟩ := List.mem_filterMap.mp hv
    obtain ⟨call, hcall, hof⟩ := List.mem_filterMap.mp hm
    have hrequest := h.wired.request (hown.calls call hcall) (Pair.request_eq_some hof).2
    rw [hrequest.2 v hscore]
    exact UInt32.le_refl _
  · rw [hown.serverScore]
    exact h.toClient
  · exact h.server.mono hstep.grows (mem_past_other (by decide))
  · exact hstep.fair.mono (UInt32.le_refl _) mem_past_same

theorem mem_of_mem_filterMap_eraseIdx {f : β → Option γ} {l : List β} {place : Nat}
    (h : v ∈ (l.eraseIdx place).filterMap f) : v ∈ l.filterMap f := by
  obtain ⟨m, hm, hv⟩ := List.mem_filterMap.mp h
  exact List.mem_filterMap.mpr ⟨m, List.mem_of_mem_eraseIdx hm, hv⟩

/-- The view is the old one, or one that was on the way. -/
theorem getD_mem_filterMap {f : β → Option γ} {l : List β} {m : β} (hm : m ∈ l) (view : γ) :
    (f m).getD view = view ∨ (f m).getD view ∈ l.filterMap f := by
  cases hv : f m with
  | none => exact .inl rfl
  | some v => exact .inr (List.mem_filterMap.mpr ⟨m, hm, hv⟩)

theorem Pair.Contest.served {m : ToServer} {place : Nat} {calls : List DeviceCall}
    (h : p.Contest a past) (hm : m ∈ p.toServer) (hwired : p'.Wired a)
    (hserved : Served a { p with toServer := p.toServer.eraseIdx place } m p')
    (hsilent : passCall ∉ calls) : p'.Contest a (past ++ calls.map (Side.server, ·)) := by
  obtain ⟨server, scoreConfig, stateConfig, toClient, rfl⟩ := hserved.frame
  obtain ⟨answers, htoClient, hanswers⟩ := hserved.answers
  dsimp only at htoClient
  subst htoClient
  refine ⟨hwired, hserved.connected h.serverRole, h.clientRole, ?_, ?_, ?_, ?_⟩
  · refine h.toServer.take ?_ fun v hv => mem_of_mem_filterMap_eraseIdx hv
    rw [hserved.clientScore]
    exact getD_mem_filterMap hm _
  · unfold Pair.scoresToClient
    dsimp only
    rw [Mirror.filterMap_append_none fun answer hanswer => (hanswers answer hanswer).2]
    exact h.toClient
  · exact ⟨h.server.fresh, fun hp => h.server.behind (mem_past_silent hsilent hp)⟩
  · exact h.client.mono (UInt32.le_refl _) (mem_past_silent hsilent)

theorem Pair.serve_silent {m : ToServer} (h : p.serve a m = some (p', calls)) :
    passCall ∉ calls := by
  cases m with
  | discover startHandle =>
    cases h
    exact List.not_mem_nil
  | read handle offset =>
    obtain ⟨uuid, -, h⟩ := Option.bind_eq_some_iff.mp h
    obtain ⟨⟨d, calls'⟩, hevent, hret⟩ := Option.bind_eq_some_iff.mp h
    cases hret
    exact serviceOnBleEvt_silent hevent
  | writeRequest handle data =>
    obtain ⟨uuid, -, h⟩ := Option.bind_eq_some_iff.mp h
    obtain ⟨⟨d, calls'⟩, hevent, hret⟩ := Option.bind_eq_some_iff.mp h
    cases hret
    exact serviceOnBleEvt_silent hevent
  | writeCommand handle data =>
    cases h
    exact List.not_mem_nil
  | confirm handle =>
    cases h
    exact List.not_mem_nil

theorem gameTakeState_proper {m : ToClient} (hm : m.Proper a d.client)
    (hevent : serviceClientOnBleEvt uninit d.client m.event = some (client, clientCalls)) :
    gameTakeState d clientCalls = d ∨
      ∃ state, (state = .init ∨ state = .initializingGame) ∧
        gameTakeState d clientCalls = { d with game.gameState := state } := by
  rw [gameTakeState_eq]
  rcases serviceClientOnBleEvt_stateSet hevent with ⟨-, hset⟩ | ⟨data, state, hdata, hcopy, hset⟩
  · rw [hset]
    exact .inl rfl
  rw [hset]
  refine .inr ⟨.ofValue state.toUInt8, ?_, rfl⟩
  cases m with
  | handleValue handle type data' =>
    simp only [ToClient.event, ServiceClient.stateIndication, Option.ite_none_right_eq_some,
      Option.some.injEq] at hdata
    obtain ⟨hstate, rfl⟩ := hdata
    rcases hm.2 with ⟨hscore, -⟩ | ⟨-, rfl | rfl⟩
    · rw [← hm.1.info] at hscore
      exact absurd hscore hstate.1
    · rw [indicated, copyToWord_wordBytes] at hcopy
      cases hcopy
      exact .inl rfl
    · rw [indicated, copyToWord_wordBytes] at hcopy
      cases hcopy
      exact .inr rfl
  | _ => cases hdata

theorem Pair.Contest.taken {client : ServiceClient} {m : ToClient} {place : Nat}
    (h : p.Contest a past) (hm : m ∈ p.toClient)
    (hevent : serviceClientOnBleEvt uninit p.client.client m.event = some (client, clientCalls))
    (hentry : (gameTakeState p.client clientCalls).game.gameState = .initializingGame →
      p.client.game.gameState = .initializingGame) :
    Pair.Contest a { p with
        client := { gameTakeState p.client clientCalls with client }
        toClient := p.toClient.eraseIdx place
        toServer := p.toServer ++ (clientCalls.map DeviceCall.client).filterMap p.request }
      (past ++ (clientCalls.map DeviceCall.client).map (Side.client, ·)) := by
  have hproper := h.wired.toClient m hm
  have htaken := hproper.taken hevent
  have hsilent : passCall ∉ clientCalls.map DeviceCall.client := by
    refine not_mem_of_isDisplay fun call hcall => ?_
    obtain ⟨clientCall, -, rfl⟩ := List.mem_map.mp hcall
    rfl
  have hfair : (gameTakeState p.client clientCalls).Fair p.server.game.myScore
      ((Side.client, passCall) ∈ past) := by
    rcases gameTakeState_proper hproper hevent with heq | ⟨state, hstate, heq⟩
    · rw [heq]
      exact h.client
    · rw [heq] at hentry ⊢
      exact h.client.take hstate hentry
  have hrole : serviceClientIsConnected client = true :=
    beq_iff_eq.mpr (htaken.stays (beq_iff_eq.mp h.clientRole))
  have hwired := h.wired.taken (h.wired.linked_of_toClient hm) place htaken
  refine ⟨hwired, h.serverRole, hrole, ?_, ?_, ?_, ?_⟩
  · unfold Pair.scoresToServer
    dsimp only
    rw [Mirror.filterMap_append_none, gameTakeState_myScore]
    · exact h.toServer
    intro request hrequest
    obtain ⟨call, hcall, hof⟩ := List.mem_filterMap.mp hrequest
    obtain ⟨clientCall, hmem, rfl⟩ := List.mem_map.mp hcall
    exact (htaken.requests clientCall hmem request (Pair.request_eq_some hof).2).2
  · refine h.toClient.take ?_ fun v hv => mem_of_mem_filterMap_eraseIdx hv
    rw [htaken.serverScore]
    exact getD_mem_filterMap hm _
  · dsimp only
    rw [gameTakeState_myScore]
    exact h.server.mono (UInt32.le_refl _) (mem_past_silent hsilent)
  · exact ⟨hfair.fresh, fun hp => hfair.behind (mem_past_silent hsilent hp)⟩

theorem Pair.Contest.step (h : p.Contest a past) (hplay : event.isPlay = true)
    (hentry : p.EntersNoGame p') (hstep : pairStep t a p event = some (p', outs)) :
    p'.Contest a (past ++ outs) := by
  cases event with
  | atServer event =>
    obtain ⟨server, calls, hone, rfl, rfl⟩ := pairStep_atServer hstep
    exact h.atServer hplay hone hentry.1
  | atClient event =>
    obtain ⟨client, calls, hone, rfl, rfl⟩ := pairStep_atClient hstep
    exact h.atClient hplay hone hentry.2
  | deliverToServer place =>
    have hwired := h.wired.step rfl hstep
    obtain ⟨m, calls, hmessage, hserve, hserved, rfl⟩ := h.wired.deliverToServer hstep
    exact h.served (List.mem_of_getElem? hmessage) hwired hserved (Pair.serve_silent hserve)
  | deliverToClient place uninit =>
    obtain ⟨m, client, clientCalls, hmessage, hevent, rfl, rfl⟩ := pairStep_deliverToClient hstep
    exact h.taken (List.mem_of_getElem? hmessage) hevent hentry.2
  | _ => cases hplay

end

-- ---------------------------------------------------------------------------
-- Runs
-- ---------------------------------------------------------------------------

/-- Until either device enters the next game, deliveries may even overtake one
another. -/
theorem pair_not_both_pass (t : AppTimer) (a : Attributes) (p p' : Pair)
    (events : List PairEvent) (outs : List (Side × DeviceCall)) (hfresh : p.Fresh a)
    (hevents : Runs.Guarded (pairStep t a)
      (fun p event => event.isPlay = true ∧ ∀ r ∈ pairStep t a p event, p.EntersNoGame r.1)
      p events)
    (hrun : Runs.run (pairStep t a) p events = some (p', outs)) :
    ¬ ((Side.server, passCall) ∈ outs ∧ (Side.client, passCall) ∈ outs) := by
  have hcontest : p'.Contest a outs := by
    refine hevents.invariant (P := fun p past => p.Contest a past) ?_ [] hfresh.contest hrun
    rintro s past event s' out hcontest ⟨hplay, hentry⟩ hstep
    exact hcontest.step hplay (hentry (s', out) hstep) hstep
  rintro ⟨hserver, hclient⟩
  have hlt := (hcontest.server.behind hserver).2
  have hlt' := (hcontest.client.behind hclient).2
  exact UInt32.lt_irrefl _ (UInt32.lt_trans hlt hlt')

/-- Both devices are counting down. -/
def countingDownPair : Pair :=
  let server := deviceBoot attributesAt16.valueHandles
  let client := deviceBoot []
  { server := { server with
      game.gameState := .countingDown
      server.state := .connected
      server.connHandle := 0 }
    client := { client with
      game.gameState := .countingDown
      client.state := .connected
      client.connHandle := 0
      client.serviceHandle := attributesAt16.serviceHandle
      client.info := attributesAt16.info }
    linked := true
    scoreConfig := true
    stateConfig := true
    toServer := []
    toClient := [] }

/-- The client scores once, in time for the server's verdict. -/
def clientScores : List PairEvent :=
  let now : Readings := ⟨163840, 163840⟩
  let late : Readings := ⟨2129920, 2129920⟩
  [.atServer (.gameTasks now), .atClient (.gameTasks now), .atServer (.gameTasks now),
    .atClient (.gameTasks now), .atClient (.button .button3 .push), .deliverToServer 0,
    .atServer (.gameTasks late), .atClient (.gameTasks late), .atServer (.gameTasks late),
    .atClient (.gameTasks late)]

theorem pair_not_both_pass_clientScores :
    ∃ p' outs, Runs.run (pairStep appTimerSdk attributesAt16) countingDownPair clientScores =
        some (p', outs) ∧ (Side.server, passCall) ∈ outs ∧
      ¬ ((Side.server, passCall) ∈ outs ∧ (Side.client, passCall) ∈ outs) := by
  have hrun : (Runs.run (pairStep appTimerSdk attributesAt16) countingDownPair
      clientScores).isSome := by decide +kernel
  obtain ⟨⟨p', outs⟩, h⟩ := Option.isSome_iff_exists.mp hrun
  have hpass : ∀ r ∈ Runs.run (pairStep appTimerSdk attributesAt16) countingDownPair clientScores,
      (Side.server, passCall) ∈ r.2 := by decide +kernel
  have hfresh : countingDownPair.Fresh attributesAt16 :=
    ⟨rfl, rfl, by decide, rfl, rfl, ⟨rfl, rfl⟩, by decide, ⟨rfl, rfl⟩, ⟨rfl, rfl⟩, rfl, rfl⟩
  exact ⟨p', outs, h, hpass (p', outs) h, pair_not_both_pass appTimerSdk attributesAt16
    countingDownPair p' clientScores outs hfresh (by decide +kernel) h⟩

end WaterBall
