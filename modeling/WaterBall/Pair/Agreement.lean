import WaterBall.Support.Mirror
import WaterBall.Pair.Wiring

/-!
# Scores agree when nothing is in flight

Each device mirrors the other's score. A score is sent when it changes and
never again, so the mirrors are right for as long as no change is kept from
the other side: neither by a role that is not there yet, nor by an indication
that is not enabled yet, nor by a disconnect.
-/

namespace WaterBall

open Support

/-- Once everything in flight has arrived, each device has the other's score. -/
structure Pair.InStep (a : Attributes) (p : Pair) : Prop where
  toServer : Mirror.latest p.server.server.clientScore (p.scoresToServer a) = p.client.game.myScore
  toClient : Mirror.latest p.client.client.serverScore (p.scoresToClient a) = p.server.game.myScore

/-- Score changes, the service's own work, and a link that keeps the order. -/
def PairEvent.isScoreRun : PairEvent → Bool
  | atServer (.setMyScore _) => true
  | atServer (.incrementMyScore _) => true
  | atServer .serviceTasks => true
  | atClient (.setMyScore _) => true
  | atClient (.incrementMyScore _) => true
  | atClient .serviceTasks => true
  | atClient .tryConnect => true
  | deliverToServer place => place == 0
  | deliverToClient place _ => place == 0
  | connect _ _ => true
  | disconnect => true
  | _ => false

def DeviceEvent.newScore (score : UInt32) : DeviceEvent → Option UInt32
  | setMyScore score' => some score'
  | incrementMyScore points => some (incremented score points)
  | _ => none

section
variable (p : Pair)

/-- The server's score goes over the air. -/
def Pair.ServerOpen : Prop := p.server.isServiceServer = true ∧ p.scoreConfig = true

/-- The client's score goes over the air. -/
def Pair.ClientOpen : Prop := p.client.isServiceClient = true

def Pair.KeepsPace : PairEvent → Prop
  | .atServer event => ∀ score ∈ event.newScore p.server.game.myScore,
      score ≠ p.server.game.myScore → p.ServerOpen
  | .atClient event => ∀ score ∈ event.newScore p.client.game.myScore,
      score ≠ p.client.game.myScore → p.ClientOpen
  | .disconnect => p.server.server.clientScore = p.client.game.myScore ∧
      p.client.client.serverScore = p.server.game.myScore
  | _ => True

instance : Decidable p.ServerOpen := inferInstanceAs (Decidable (_ ∧ _))

instance : Decidable p.ClientOpen := inferInstanceAs (Decidable (_ = true))

instance : DecidablePred p.KeepsPace
  | .atServer _ => Option.decidableForallMem _
  | .atClient _ => Option.decidableForallMem _
  | .disconnect => inferInstanceAs (Decidable (_ ∧ _))
  | .deliverToServer _ | .deliverToClient .. | .connect .. => isTrue trivial

/-- Both roles are established, the indications are enabled, nothing is in flight. -/
structure Pair.Quiescent : Prop where
  server : p.server.server.state = .connected
  client : p.client.client.state = .connected
  scoreConfig : p.scoreConfig = true
  stateConfig : p.stateConfig = true
  toServer : p.toServer = []
  toClient : p.toClient = []

end

-- ---------------------------------------------------------------------------
-- Own steps
-- ---------------------------------------------------------------------------

section
variable {a : Attributes} {p : Pair}

theorem Pair.InStep.atServer {server : Device} (h : p.InStep a) (hp : p.Wired a)
    (hown : OwnStep p.server server calls) (hsame : server.game.myScore = p.server.game.myScore) :
    Pair.InStep a
      { p with server, toClient := p.toClient ++ calls.filterMap (p.indication a) } where
  toServer := hown.clientScore ▸ h.toServer
  toClient := by
    unfold Pair.scoresToClient
    dsimp only
    rw [List.filterMap_append, hsame]
    refine Mirror.latest_append h.toClient ?_
    intro v hv
    obtain ⟨m, hm, hscore⟩ := List.mem_filterMap.mp hv
    obtain ⟨call, hcall, hof⟩ := List.mem_filterMap.mp hm
    exact ((hp.indication (hown.calls call hcall) hof).2 v hscore).trans hsame

theorem Pair.InStep.atClient {client : Device} (h : p.InStep a) (hp : p.Wired a)
    (hown : OwnStep p.client client calls) (hsame : client.game.myScore = p.client.game.myScore) :
    Pair.InStep a { p with client, toServer := p.toServer ++ calls.filterMap p.request } where
  toServer := by
    unfold Pair.scoresToServer
    dsimp only
    rw [List.filterMap_append, hsame]
    refine Mirror.latest_append h.toServer ?_
    intro v hv
    obtain ⟨m, hm, hscore⟩ := List.mem_filterMap.mp hv
    obtain ⟨call, hcall, hof⟩ := List.mem_filterMap.mp hm
    have hown' := hp.request (hown.calls call hcall) (Pair.request_eq_some hof).2
    exact (hown'.2 v hscore).trans hsame
  toClient := hown.serverScore ▸ h.toClient

theorem Pair.InStep.serverScore {server : Device} (h : p.InStep a) (hp : p.Wired a)
    (hopen : p.ServerOpen) (score : UInt32)
    (hset : gameSetMyScore p.server score = (server, calls)) :
    Pair.InStep a
      { p with server, toClient := p.toClient ++ calls.filterMap (p.indication a) } := by
  have hlinked := (hp.configured (.inl hopen.2)).1
  have hsend : serviceServerHvxSend p.server.server .indication
      p.server.server.info.serverScoreHandle (LittleEndian.wordBytes score) =
        [.gattsHvx p.server.server.connHandle a.info.serverScoreHandle .indication
          (LittleEndian.wordBytes score)] := by
    unfold serviceServerHvxSend
    rw [if_neg (hp.serverConn hlinked), hp.serverInfo]
  have hindication : p.indication a (.server (.gattsHvx p.server.server.connHandle
      a.info.serverScoreHandle .indication (LittleEndian.wordBytes score))) =
        some (.handleValue a.info.serverScoreHandle .indication
          (LittleEndian.wordBytes score)) := by
    refine if_pos ⟨hlinked, ?_⟩
    unfold Pair.configured
    rw [hopen.2, beq_self_eq_true]
    rfl
  rw [gameSetMyScore_asServer hopen.1, hsend] at hset
  cases hset
  refine ⟨h.toServer, ?_⟩
  unfold Pair.scoresToClient
  simp [hindication, ToClient.score]

theorem Pair.InStep.clientScore {client : Device} (h : p.InStep a) (hp : p.Wired a)
    (hopen : p.ClientOpen) (score : UInt32)
    (hset : gameSetMyScore p.client score = (client, calls)) :
    Pair.InStep a { p with client, toServer := p.toServer ++ calls.filterMap p.request } := by
  obtain ⟨hlinked, hc⟩ := hp.connected hopen
  have hrequest : p.request (.client (.gattcWrite p.client.client.connHandle .request
      a.info.clientScoreHandle (LittleEndian.wordBytes score))) =
        some (.writeRequest a.info.clientScoreHandle (LittleEndian.wordBytes score)) :=
    if_pos hlinked
  rw [gameSetMyScore_asClient hp.clientRole hopen, hc.info] at hset
  cases hset
  refine ⟨?_, h.toClient⟩
  unfold Pair.scoresToServer
  simp [hrequest, ToServer.score]

-- ---------------------------------------------------------------------------
-- Deliveries
-- ---------------------------------------------------------------------------

theorem Pair.InStep.served {rest : List ToServer} (h : p.InStep a) (hqueue : p.toServer = m :: rest)
    (hserved : Served a { p with toServer := rest } m p') : p'.InStep a := by
  obtain ⟨server, scoreConfig, stateConfig, toClient, rfl⟩ := hserved.frame
  obtain ⟨answers, htoClient, hanswers⟩ := hserved.answers
  dsimp only at htoClient
  subst htoClient
  refine ⟨?_, ?_⟩
  · have hstep := h.toServer
    unfold Pair.scoresToServer at hstep ⊢
    rw [hqueue, Mirror.latest_filterMap_cons] at hstep
    rw [hserved.clientScore]
    exact hstep
  · unfold Pair.scoresToClient
    dsimp only
    rw [Mirror.filterMap_append_none fun answer hanswer => (hanswers answer hanswer).2]
    exact h.toClient

theorem Pair.InStep.taken {rest : List ToClient} {client : ServiceClient} (h : p.InStep a)
    (hqueue : p.toClient = m :: rest) (htaken : Taken a p.client.client client m clientCalls) :
    Pair.InStep a { p with
      client := { gameTakeState p.client clientCalls with client }
      toClient := rest
      toServer := p.toServer ++ (clientCalls.map DeviceCall.client).filterMap p.request } := by
  refine ⟨?_, ?_⟩
  · unfold Pair.scoresToServer
    dsimp only
    rw [Mirror.filterMap_append_none, gameTakeState_myScore]
    · exact h.toServer
    intro request hrequest
    obtain ⟨call, hcall, hof⟩ := List.mem_filterMap.mp hrequest
    obtain ⟨clientCall, hmem, rfl⟩ := List.mem_map.mp hcall
    exact (htaken.requests clientCall hmem request (Pair.request_eq_some hof).2).2
  · have hstep := h.toClient
    unfold Pair.scoresToClient at hstep ⊢
    rw [hqueue, Mirror.latest_filterMap_cons] at hstep
    rw [htaken.serverScore]
    exact hstep

-- ---------------------------------------------------------------------------
-- Steps and runs
-- ---------------------------------------------------------------------------

theorem PairEvent.isScoreRun_isOwn {event : PairEvent} (h : event.isScoreRun = true) :
    event.isOwn = true := by
  cases event with
  | atServer event => cases event <;> first | rfl | cases h
  | atClient event => cases event <;> first | rfl | cases h
  | _ => rfl

end

theorem deviceStep_setScore (hnew : score ∈ event.newScore d.game.myScore)
    (h : deviceStep t d event = some (d', calls)) : gameSetMyScore d score = (d', calls) := by
  cases event with
  | setMyScore =>
    cases hnew
    exact Option.some.inj h
  | incrementMyScore points =>
    have hscore : incremented d.game.myScore points = score := Option.some.inj hnew
    rw [← hscore, ← gameIncrementMyScore_eq]
    exact Option.some.inj h
  | _ => cases hnew

theorem deviceStep_newScore (hrun : (PairEvent.atClient event).isScoreRun = true)
    (h : deviceStep t d event = some (d', calls)) (hchange : d'.game.myScore ≠ d.game.myScore) :
    ∃ score ∈ event.newScore d.game.myScore, score ≠ d.game.myScore ∧
      gameSetMyScore d score = (d', calls) := by
  cases hnew : event.newScore d.game.myScore with
  | some score =>
    have hset := deviceStep_setScore hnew h
    have hgame := gameSetMyScore_game d score
    rw [hset] at hgame
    rw [congrArg Game.myScore hgame] at hchange
    exact ⟨score, rfl, hchange, hset⟩
  | none =>
    cases event with
    | serviceTasks =>
      cases h
      exact absurd rfl hchange
    | tryConnect =>
      cases h
      exact absurd rfl hchange
    | setMyScore => cases hnew
    | incrementMyScore => cases hnew
    | _ => cases hrun

theorem Pair.InStep.step (h : Pair.InStep a p) (hp : p.Wired a) (hrun : event.isScoreRun = true)
    (hpace : p.KeepsPace event) (hstep : pairStep t a p event = some (p', outs)) :
    p'.InStep a := by
  cases event with
  | atServer event =>
    obtain ⟨server, calls, hone, rfl, -⟩ := pairStep_atServer hstep
    by_cases hsame : server.game.myScore = p.server.game.myScore
    · exact h.atServer hp (deviceStep_own (PairEvent.isScoreRun_isOwn hrun) hone) hsame
    have hrun' : (PairEvent.atClient event).isScoreRun = true := by
      cases event <;> first | rfl | cases hrun
    obtain ⟨score, hnew, hchange, hset⟩ := deviceStep_newScore hrun' hone hsame
    exact h.serverScore hp (hpace score hnew hchange) score hset
  | atClient event =>
    obtain ⟨client, calls, hone, rfl, -⟩ := pairStep_atClient hstep
    by_cases hsame : client.game.myScore = p.client.game.myScore
    · exact h.atClient hp (deviceStep_own (PairEvent.isScoreRun_isOwn hrun) hone) hsame
    obtain ⟨score, hnew, hchange, hset⟩ := deviceStep_newScore hrun hone hsame
    exact h.clientScore hp (hpace score hnew hchange) score hset
  | deliverToServer place =>
    cases eq_of_beq hrun
    obtain ⟨message, calls, hmessage, hserve, -⟩ := pairStep_deliverToServer hstep
    cases hqueue : p.toServer with
    | nil =>
      rw [hqueue] at hmessage
      cases hmessage
    | cons m rest =>
      rw [hqueue] at hmessage hserve
      cases hmessage
      have hmem : message ∈ p.toServer := hqueue ▸ List.mem_cons_self
      have hinfo := (hp.eraseToServer 0).serverInfo
      rw [hqueue] at hinfo
      exact h.served hqueue (Pair.serve_served hinfo (hp.toServer message hmem) hserve)
  | deliverToClient place uninit =>
    cases eq_of_beq hrun
    obtain ⟨message, client, clientCalls, hmessage, hevent, rfl, -⟩ :=
      pairStep_deliverToClient hstep
    cases hqueue : p.toClient with
    | nil =>
      rw [hqueue] at hmessage
      cases hmessage
    | cons m rest =>
      rw [hqueue] at hmessage
      cases hmessage
      have hmem : message ∈ p.toClient := hqueue ▸ List.mem_cons_self
      exact h.taken hqueue ((hp.toClient message hmem).taken hevent)
  | connect serverConn clientConn =>
    obtain ⟨-, -, rfl⟩ := pairStep_connect hstep
    exact ⟨h.toServer, h.toClient⟩
  | disconnect =>
    obtain ⟨-, -, rfl⟩ := pairStep_disconnect hstep
    exact ⟨hpace.1, hpace.2⟩

theorem Pair.indication_closed {p : Pair} (hopen : ¬ p.ServerOpen)
    (hinfo : p.server.server.info = a.info) (score : UInt32) :
    ((gameSetMyScore p.server score).2.filterMap (p.indication a)) = [] := by
  refine List.filterMap_eq_nil_iff.mpr fun call hcall => ?_
  cases hserver : p.server.isServiceServer with
  | true =>
    have hconfig : p.scoreConfig = false := by
      rw [← Bool.not_eq_true]
      exact fun h => hopen ⟨hserver, h⟩
    rw [gameSetMyScore_asServer hserver] at hcall
    rw [mem_hvxSend hcall, hinfo]
    refine if_neg fun h => ?_
    have hconfigured := h.2
    unfold Pair.configured at hconfigured
    simp [hconfig, Ne.symm a.gameState_ne_serverScore] at hconfigured
  | false =>
    cases hclient : p.server.isServiceClient with
    | true =>
      rw [gameSetMyScore_asClient hserver hclient] at hcall
      rw [List.mem_singleton.mp hcall]
      rfl
    | false =>
      rw [gameSetMyScore_alone hserver hclient] at hcall
      cases hcall

/-- A step that does not keep pace leaves a mirror behind. -/
theorem Pair.InStep.lost (h : Pair.InStep a p) (hp : p.Wired a) (hpace : ¬ p.KeepsPace event)
    (hstep : pairStep t a p event = some (p', outs)) : ¬ p'.InStep a := by
  intro h'
  cases event with
  | atServer event =>
    obtain ⟨server, calls, hone, rfl, -⟩ := pairStep_atServer hstep
    simp only [Pair.KeepsPace, not_forall] at hpace
    obtain ⟨score, hnew, hchange, hopen⟩ := hpace
    have hset := deviceStep_setScore hnew hone
    have hsilent := Pair.indication_closed hopen hp.serverInfo score
    have hgame := gameSetMyScore_game p.server score
    rw [hset] at hsilent hgame
    have hafter := h'.toClient
    unfold Pair.scoresToClient at hafter
    dsimp only at hafter
    rw [hsilent, List.append_nil, hgame] at hafter
    exact hchange (hafter.symm.trans h.toClient)
  | atClient event =>
    obtain ⟨client, calls, hone, rfl, -⟩ := pairStep_atClient hstep
    simp only [Pair.KeepsPace, not_forall] at hpace
    obtain ⟨score, hnew, hchange, hopen⟩ := hpace
    have hset := deviceStep_setScore hnew hone
    rw [gameSetMyScore_alone hp.clientRole (Bool.eq_false_iff.mpr hopen)] at hset
    cases hset
    have hafter := h'.toServer
    unfold Pair.scoresToServer at hafter
    rw [List.filterMap_nil, List.append_nil] at hafter
    exact hchange (hafter.symm.trans h.toServer)
  | disconnect =>
    obtain ⟨-, -, rfl⟩ := pairStep_disconnect hstep
    exact hpace ⟨h'.toServer, h'.toClient⟩
  | _ => exact hpace trivial

theorem pair_scores_agree (t : AppTimer) (a : Attributes) (clientHandles : List UInt16)
    (events : List PairEvent) (p : Pair) (outs : List (Side × DeviceCall))
    (hevents : Runs.Guarded (pairStep t a)
      (fun p event => event.isScoreRun = true ∧ p.KeepsPace event)
      (pairBoot a clientHandles) events)
    (hrun : Runs.run (pairStep t a) (pairBoot a clientHandles) events = some (p, outs))
    (hquiet : p.Quiescent) :
    (gameGetTheirScore p.server).1 = p.client.game.myScore ∧
      (gameGetTheirScore p.client).1 = p.server.game.myScore := by
  have hboth : p.Wired a ∧ p.InStep a := by
    refine hevents.keeps (P := fun p => p.Wired a ∧ p.InStep a) ?_ ?_ hrun
    · rintro s event s' out ⟨hwired, hinstep⟩ ⟨hscore, hpace⟩ hstep
      exact ⟨hwired.step (PairEvent.isScoreRun_isOwn hscore) hstep,
        hinstep.step hwired hscore hpace hstep⟩
    · exact ⟨pairBoot_wired a clientHandles, rfl, rfl⟩
  obtain ⟨hwired, hinstep⟩ := hboth
  have hserver : p.server.isServiceServer = true := by
    rw [Device.isServiceServer, serviceServerIsConnected, hquiet.server]
    rfl
  have hclient : p.client.isServiceClient = true := by
    rw [Device.isServiceClient, serviceClientIsConnected, hquiet.client]
    rfl
  have htoServer := hinstep.toServer
  have htoClient := hinstep.toClient
  rw [Pair.scoresToServer, hquiet.toServer] at htoServer
  rw [Pair.scoresToClient, hquiet.toClient] at htoClient
  exact ⟨(theirView_asServer hserver).trans htoServer,
    (theirView_asClient hwired.clientRole hclient).trans htoClient⟩

-- ---------------------------------------------------------------------------
-- A change before the connection
-- ---------------------------------------------------------------------------

def bringUp : List PairEvent :=
  let toServer := .deliverToServer 0
  let toClient := .deliverToClient 0 0
  [.connect ⟨0, by decide⟩ ⟨0, by decide⟩, .atClient .tryConnect,
    toServer, toClient, toServer, toClient, toServer, toClient,
    toServer, toServer, toServer, toServer, toClient,
    toServer, toClient, toServer, toClient, toServer, toClient]

def twoScores : List PairEvent :=
  bringUp ++ [.atServer (.setMyScore 5), .atClient (.incrementMyScore 3), .deliverToServer 0,
    .deliverToClient 0 0, .deliverToServer 0, .deliverToClient 0 0, .disconnect] ++ bringUp

theorem pair_scores_agree_twoScores :
    ∃ p outs,
      Runs.run (pairStep appTimerSdk attributesAt16) (pairBoot attributesAt16 []) twoScores =
        some (p, outs) ∧ p.server.game.myScore = 5 ∧ p.client.game.myScore = 3 ∧
      (gameGetTheirScore p.server).1 = p.client.game.myScore ∧
      (gameGetTheirScore p.client).1 = p.server.game.myScore := by
  have hrun : (Runs.run (pairStep appTimerSdk attributesAt16) (pairBoot attributesAt16 [])
      twoScores).isSome := by decide +kernel
  obtain ⟨⟨p, outs⟩, h⟩ := Option.isSome_iff_exists.mp hrun
  have hend : ∀ r ∈ Runs.run (pairStep appTimerSdk attributesAt16) (pairBoot attributesAt16 [])
      twoScores, r.1.server.game.myScore = 5 ∧ r.1.client.game.myScore = 3 ∧
        r.1.server.server.state = .connected ∧ r.1.client.client.state = .connected ∧
        r.1.scoreConfig = true ∧ r.1.stateConfig = true ∧ r.1.toServer = [] ∧
        r.1.toClient = [] := by decide +kernel
  obtain ⟨hfive, hthree, hserver, hclient, hscore, hstate, htoServer, htoClient⟩ := hend (p, outs) h
  refine ⟨p, outs, h, hfive, hthree, ?_⟩
  exact pair_scores_agree appTimerSdk attributesAt16 [] twoScores p outs (by decide +kernel) h
    ⟨hserver, hclient, hscore, hstate, htoServer, htoClient⟩

theorem pair_scores_agree_earlyChange :
    let events := .atServer (.setMyScore 5) :: bringUp
    (∀ event ∈ events, event.isScoreRun = true) ∧
      ∃ p outs, Runs.run (pairStep appTimerSdk attributesAt16) (pairBoot attributesAt16 []) events =
          some (p, outs) ∧ p.Quiescent ∧
        (gameGetTheirScore p.client).1 = 0 ∧ p.server.game.myScore = 5 := by
  refine ⟨by decide +kernel, ?_⟩
  have hrun : (Runs.run (pairStep appTimerSdk attributesAt16) (pairBoot attributesAt16 [])
      (.atServer (.setMyScore 5) :: bringUp)).isSome := by decide +kernel
  obtain ⟨⟨p, outs⟩, h⟩ := Option.isSome_iff_exists.mp hrun
  have hend : ∀ r ∈ Runs.run (pairStep appTimerSdk attributesAt16) (pairBoot attributesAt16 [])
      (.atServer (.setMyScore 5) :: bringUp),
      r.1.server.server.state = .connected ∧ r.1.client.client.state = .connected ∧
        r.1.scoreConfig = true ∧ r.1.stateConfig = true ∧ r.1.toServer = [] ∧
        r.1.toClient = [] ∧ (gameGetTheirScore r.1.client).1 = 0 ∧
        r.1.server.game.myScore = 5 := by decide +kernel
  obtain ⟨hserver, hclient, hscore, hstate, htoServer, htoClient, hview, hfive⟩ :=
    hend (p, outs) h
  exact ⟨p, outs, h, ⟨hserver, hclient, hscore, hstate, htoServer, htoClient⟩, hview, hfive⟩

end WaterBall
