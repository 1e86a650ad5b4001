import WaterBall.Pair.Messages

/-!
# The wiring of a pair

What connects the two devices at any time: the server's handles, the client's
knowledge of them and the messages in flight. Every step of the pair keeps it.
-/

namespace WaterBall

open Support

-- ---------------------------------------------------------------------------
-- Steps, taken apart
-- ---------------------------------------------------------------------------

theorem pairStep_atServer (h : pairStep t a p (.atServer event) = some (p', outs)) :
    ∃ server calls, deviceStep t p.server event = some (server, calls) ∧
      p' = { p with server, toClient := p.toClient ++ calls.filterMap (p.indication a) } ∧
      outs = calls.map (Side.server, ·) := by
  obtain ⟨⟨server, calls⟩, hstep, hret⟩ := Option.bind_eq_some_iff.mp h
  cases hret
  exact ⟨server, calls, hstep, rfl, rfl⟩

theorem pairStep_atClient (h : pairStep t a p (.atClient event) = some (p', outs)) :
    ∃ client calls, deviceStep t p.client event = some (client, calls) ∧
      p' = { p with client, toServer := p.toServer ++ calls.filterMap p.request } ∧
      outs = calls.map (Side.client, ·) := by
  obtain ⟨⟨client, calls⟩, hstep, hret⟩ := Option.bind_eq_some_iff.mp h
  cases hret
  exact ⟨client, calls, hstep, rfl, rfl⟩

theorem pairStep_deliverToServer
    (h : pairStep t a p (.deliverToServer place) = some (p', outs)) :
    ∃ message calls, p.toServer[place]? = some message ∧
      { p with toServer := p.toServer.eraseIdx place }.serve a message = some (p', calls) ∧
      outs = calls.map (Side.server, ·) := by
  obtain ⟨message, hmessage, hrest⟩ := Option.bind_eq_some_iff.mp h
  obtain ⟨⟨p₁, calls⟩, hserve, hret⟩ := Option.bind_eq_some_iff.mp hrest
  cases hret
  exact ⟨message, calls, hmessage, hserve, rfl⟩

/-- The client's events pass its own server by. -/
theorem serviceOnBleEvt_message {m : ToClient}
    (h : serviceOnBleEvt uninit d m.event = some (d', calls)) :
    ∃ client clientCalls,
      serviceClientOnBleEvt uninit d.client m.event = some (client, clientCalls) ∧
      d' = { gameTakeState d clientCalls with client } ∧ calls = clientCalls.map .client := by
  obtain ⟨client, clientCalls, server, serverCalls, hclient, hserver, rfl, rfl⟩ :=
    serviceOnBleEvt_ends h
  have hpass : some (d.server, []) = some (server, serverCalls) := by
    cases m with
    | _ => exact hserver
  cases hpass
  refine ⟨client, clientCalls, hclient, ?_, List.append_nil _⟩
  rw [gameTakeState_eq]
  cases (clientCalls.filterMap ClientCall.stateSet).getLast? <;> rfl

theorem pairStep_deliverToClient
    (h : pairStep t a p (.deliverToClient place uninit) = some (p', outs)) :
    ∃ message client clientCalls, p.toClient[place]? = some message ∧
      serviceClientOnBleEvt uninit p.client.client message.event = some (client, clientCalls) ∧
      p' = { p with
        client := { gameTakeState p.client clientCalls with client }
        toClient := p.toClient.eraseIdx place
        toServer := p.toServer ++ (clientCalls.map DeviceCall.client).filterMap p.request } ∧
      outs = (clientCalls.map DeviceCall.client).map (Side.client, ·) := by
  obtain ⟨message, hmessage, hrest⟩ := Option.bind_eq_some_iff.mp h
  obtain ⟨⟨device, calls⟩, hevent, hret⟩ := Option.bind_eq_some_iff.mp hrest
  cases hret
  obtain ⟨client, clientCalls, hclient, rfl, rfl⟩ := serviceOnBleEvt_message hevent
  exact ⟨message, client, clientCalls, hmessage, hclient, rfl, rfl⟩

def Device.connected (d : Device) (connHandle : UInt16) : Device :=
  { d with client.connHandle := connHandle, server.connHandle := connHandle }

def Device.disconnected (d : Device) : Device :=
  { d with
    client.connHandle := bleConnHandleInvalid
    client.state := .ready
    server.connHandle := bleConnHandleInvalid
    server.state := .ready }

theorem pairStep_connect
    (h : pairStep t a p (.connect serverConn clientConn) = some (p', outs)) :
    p.linked = false ∧ outs = [] ∧
      p' = { p with
        server := p.server.connected serverConn
        client := p.client.connected clientConn
        linked := true } := by
  simp only [pairStep] at h
  split at h
  · cases h
  case isFalse hlinked =>
    cases h
    exact ⟨Bool.eq_false_iff.mpr hlinked, rfl, rfl⟩

theorem pairStep_disconnect (h : pairStep t a p .disconnect = some (p', outs)) :
    p.linked = true ∧ outs = [] ∧
      p' = .unlinked p.server.disconnected p.client.disconnected := by
  simp only [pairStep] at h
  split at h
  case isTrue hlinked =>
    cases h
    exact ⟨hlinked, rfl, rfl⟩
  · cases h

-- ---------------------------------------------------------------------------
-- The server's reaction
-- ---------------------------------------------------------------------------

/-- The server's events pass its own client by. -/
theorem serviceOnBleEvt_request
    (hpass : serviceClientOnBleEvt uninit d.client evt = some (d.client, []))
    (h : serviceOnBleEvt uninit d evt = some (d', calls)) :
    ∃ server serverCalls, serviceServerOnBleEvt d.server evt = some (server, serverCalls) ∧
      d' = { d with server } ∧ calls = serverCalls.map .server := by
  obtain ⟨client, clientCalls, server, serverCalls, hclient, hserver, rfl, rfl⟩ :=
    serviceOnBleEvt_ends h
  cases hpass.symm.trans hclient
  exact ⟨server, serverCalls, hserver, rfl, rfl⟩

/-- A proper request leaves the server's game alone, brings a score or not,
and is answered with proper messages, none of them with a score. -/
structure Served (a : Attributes) (p : Pair) (m : ToServer) (p' : Pair) : Prop where
  frame : ∃ server scoreConfig stateConfig toClient,
    p' = { p with server := { p.server with server }, scoreConfig, stateConfig, toClient }
  info : p'.server.server.info = p.server.server.info
  connHandle : p'.server.server.connHandle = p.server.server.connHandle
  clientScore : p'.server.server.clientScore = (m.score a).getD p.server.server.clientScore
  connected : p.server.isServiceServer = true → p'.server.isServiceServer = true
  configured : p'.scoreConfig = true ∨ p'.stateConfig = true →
    p.scoreConfig = true ∨ p.stateConfig = true ∨ Informed a p.client.client
  answers : ∃ answers, p'.toClient = p.toClient ++ answers ∧
    ∀ answer ∈ answers, answer.Proper a p.client.client ∧ answer.score a = none

theorem served_discover (hm : (ToServer.discover startHandle).Proper a p.client.client)
    (h : p.serve a (.discover startHandle) = some (p', calls)) :
    Served a p (.discover startHandle) p' := by
  cases h
  refine ⟨⟨_, _, _, _, rfl⟩, rfl, rfl, rfl, id, fun h => by tauto, _, rfl, ?_⟩
  refine List.forall_mem_cons.mpr ⟨?_, nofun⟩
  rcases hm with rfl | ⟨rfl, hservice⟩
  · have hle : serviceClientStartHandle ≤ a.serviceHandle := a.service_pos
    rw [if_pos hle]
    exact ⟨.inl ⟨rfl, rfl⟩, rfl⟩
  · rw [if_neg a.not_succ_serviceHandle_le]
    exact ⟨.inr ⟨rfl, hservice⟩, rfl⟩

theorem serviceServerAuthorizeRead_info (s : ServiceServer) :
    serviceServerAuthorizeRead s serviceInfoUuid 0 =
      ({ s with state := .connected },
        [.gattsReplyRead s.connHandle
          { gattStatus := .success
            update := true
            offset := 0
            len := 16
            data := some s.info.bytes }]) := by
  have hbytes : Region.read s.info.bytes 0 16 = some s.info.bytes := by
    rw [Region.read_of_fits (Nat.le_of_eq s.info.length_bytes.symm), Region.slice_zero_start,
      List.take_of_length_le (Nat.le_of_eq s.info.length_bytes)]
  have hlen : UInt16.ofNat s.info.bytes.length - 0 = 16 := by
    rw [ServiceInfo.length_bytes]
    rfl
  have hread : serviceServerAuthorizeRead s serviceInfoUuid 0 = serviceServerReadInfo s 0 := rfl
  rw [hread]
  unfold serviceServerReadInfo serviceServerReadRequestResponse
  dsimp only
  rw [hlen, ← hbytes]
  rfl

theorem served_read (hinfo : p.server.server.info = a.info)
    (hm : (ToServer.read handle offset).Proper a p.client.client)
    (h : p.serve a (.read handle offset) = some (p', calls)) :
    Served a p (.read handle offset) p' := by
  obtain ⟨uuid, huuid, h⟩ := Option.bind_eq_some_iff.mp h
  obtain ⟨⟨d, calls'⟩, hevent, hret⟩ := Option.bind_eq_some_iff.mp h
  cases hret
  obtain ⟨server, serverCalls, hserver, rfl, rfl⟩ := serviceOnBleEvt_request rfl hevent
  have hread : serviceServerAuthorizeRead p.server.server uuid offset = (server, serverCalls) :=
    Option.some.inj hserver
  obtain ⟨state, replies, hends, hstate, hreplies⟩ :=
    serviceServerAuthorizeRead_ends p.server.server uuid offset
  cases hends.symm.trans hread
  refine ⟨⟨_, _, _, _, rfl⟩, rfl, rfl, rfl, ?_, fun h => by tauto, _, rfl, ?_⟩
  · intro hconnected
    rcases hstate with rfl | rfl
    · exact hconnected
    · rfl
  intro answer hanswer
  obtain ⟨call, hcall, hof⟩ := List.mem_filterMap.mp hanswer
  obtain ⟨serverCall, hmem, rfl⟩ := List.mem_map.mp hcall
  obtain ⟨reply, rfl, hoffset⟩ := hreplies serverCall hmem
  obtain ⟨data, hdata, rfl⟩ := Option.map_eq_some_iff.mp hof
  refine ⟨⟨hoffset.trans hm.1, hm.2.imp ?_ id⟩, rfl⟩
  rintro ⟨rfl, hservice⟩
  refine ⟨rfl, ?_, hservice⟩
  -- The table of handles is what lies behind the one UUID.
  cases a.uuidAt_info.symm.trans huuid
  obtain ⟨rfl, -⟩ := hm
  cases (serviceServerAuthorizeRead_info p.server.server).symm.trans hread
  cases List.mem_singleton.mp hmem
  cases hdata
  rw [hinfo]

theorem served_writeRequest (hm : (ToServer.writeRequest handle data).Proper a p.client.client)
    (h : p.serve a (.writeRequest handle data) = some (p', calls)) :
    Served a p (.writeRequest handle data) p' := by
  obtain ⟨rfl, ⟨score, rfl⟩, hc⟩ := hm
  obtain ⟨uuid, huuid, h⟩ := Option.bind_eq_some_iff.mp h
  cases a.uuidAt_clientScore.symm.trans huuid
  obtain ⟨⟨d, calls'⟩, hevent, hret⟩ := Option.bind_eq_some_iff.mp h
  cases hret
  obtain ⟨server, serverCalls, hserver, rfl, rfl⟩ := serviceOnBleEvt_request rfl hevent
  have hwrite := serviceServer_write .clientScore p.server.server
    (LittleEndian.length_wordBytes score) []
  cases hwrite.symm.trans hserver
  refine ⟨⟨_, _, _, _, rfl⟩, rfl, rfl, ?_, id, fun h => by tauto, _, rfl, ?_⟩
  · have hscore : (ToServer.writeRequest a.info.clientScoreHandle
        (LittleEndian.wordBytes score)).score a =
          some (LittleEndian.word (LittleEndian.wordBytes score)) := if_pos rfl
    rw [hscore]
    rfl
  · exact List.forall_mem_cons.mpr ⟨⟨trivial, rfl⟩, nofun⟩

theorem served_writeCommand (hm : (ToServer.writeCommand handle data).Proper a p.client.client)
    (h : p.serve a (.writeCommand handle data) = some (p', calls)) :
    Served a p (.writeCommand handle data) p' := by
  have hconfigure : p.configure a handle data = p' := congrArg Prod.fst (Option.some.inj h)
  obtain ⟨scoreConfig, stateConfig, hframe⟩ : ∃ scoreConfig stateConfig,
      p.configure a handle data = { p with scoreConfig, stateConfig } := by
    unfold Pair.configure
    dsimp only
    split
    · exact ⟨_, _, rfl⟩
    split
    · exact ⟨_, _, rfl⟩
    · exact ⟨_, _, rfl⟩
  rw [hframe] at hconfigure
  cases hconfigure
  exact ⟨⟨_, _, _, _, rfl⟩, rfl, rfl, rfl, id, fun _ => .inr (.inr hm), [],
    (List.append_nil _).symm, nofun⟩

theorem Pair.serve_served (hinfo : p.server.server.info = a.info) {m : ToServer}
    (hm : m.Proper a p.client.client) (h : p.serve a m = some (p', calls)) : Served a p m p' := by
  cases m with
  | discover startHandle => exact served_discover hm h
  | read handle offset => exact served_read hinfo hm h
  | writeRequest handle data => exact served_writeRequest hm h
  | writeCommand handle data => exact served_writeCommand hm h
  | confirm handle =>
    cases h
    exact ⟨⟨_, _, _, _, rfl⟩, rfl, rfl, rfl, id, fun h => by tauto, [],
      (List.append_nil _).symm, nofun⟩

-- ---------------------------------------------------------------------------
-- The invariant
-- ---------------------------------------------------------------------------

structure Pair.Wired (a : Attributes) (p : Pair) : Prop where
  serverInfo : p.server.server.info = a.info
  serverConn : p.linked = true → p.server.server.connHandle ≠ bleConnHandleInvalid
  clientRole : p.client.isServiceServer = false
  connected : p.client.isServiceClient = true → p.linked = true ∧ Informed a p.client.client
  configured : p.scoreConfig = true ∨ p.stateConfig = true →
    p.linked = true ∧ Informed a p.client.client
  toServer : ∀ m ∈ p.toServer, m.Proper a p.client.client
  toClient : ∀ m ∈ p.toClient, m.Proper a p.client.client
  unlinked : p.linked = false → p.toServer = [] ∧ p.toClient = []

theorem pairBoot_wired (a : Attributes) (clientHandles : List UInt16) :
    (pairBoot a clientHandles).Wired a where
  serverInfo := rfl
  serverConn := nofun
  clientRole := rfl
  connected := nofun
  configured h := h.elim nofun nofun
  toServer := nofun
  toClient := nofun
  unlinked _ := ⟨rfl, rfl⟩

section
variable {a : Attributes} {p : Pair}

theorem Pair.Wired.linked_of_toServer (hp : p.Wired a) {m : ToServer} (hm : m ∈ p.toServer) :
    p.linked = true := by
  cases hlinked : p.linked with
  | true => rfl
  | false =>
    rw [(hp.unlinked hlinked).1] at hm
    cases hm

theorem Pair.Wired.linked_of_toClient (hp : p.Wired a) {m : ToClient} (hm : m ∈ p.toClient) :
    p.linked = true := by
  cases hlinked : p.linked with
  | true => rfl
  | false =>
    rw [(hp.unlinked hlinked).2] at hm
    cases hm

theorem Pair.indication_unlinked (hlinked : p.linked = false) (call : DeviceCall) :
    p.indication a call = none := by
  unfold Pair.indication
  split
  · rw [hlinked, if_neg (fun h => Bool.false_ne_true h.1)]
  · rfl

theorem Pair.request_unlinked (hlinked : p.linked = false) (call : DeviceCall) :
    p.request call = none := by
  unfold Pair.request
  rw [hlinked]
  exact if_neg Bool.false_ne_true

theorem Pair.indication_hvx
    (h : p.indication a (.server (.gattsHvx connHandle handle type data)) = some m) :
    p.configured a handle = true ∧ m = .handleValue handle type data := by
  simp only [Pair.indication] at h
  split at h
  case isTrue hopen => exact ⟨hopen.2, (Option.some.inj h).symm⟩
  case isFalse => cases h

theorem Pair.Wired.informed_of_configured (hp : p.Wired a)
    (h : p.configured a handle = true) : Informed a p.client.client := by
  unfold Pair.configured at h
  simp only [Bool.or_eq_true, Bool.and_eq_true] at h
  exact (hp.configured (h.imp And.right And.right)).2

theorem DeviceCall.display_silent {call : DeviceCall} (h : call.isDisplay = true) :
    p.indication a call = none ∧ call.request = none := by
  cases call with
  | server => cases h
  | client => cases h
  | _ => exact ⟨rfl, rfl⟩

/-- What a server sends on its own is proper, and a score is its own. -/
theorem Pair.Wired.indication (hp : p.Wired a) {score : UInt32} {call : DeviceCall}
    (hcall : OwnCall p.server.server p.server.client score call)
    (h : p.indication a call = some m) :
    m.Proper a p.client.client ∧ ∀ v ∈ m.score a, v = score := by
  cases hcall with
  | score connHandle =>
    obtain ⟨hopen, rfl⟩ := Pair.indication_hvx h
    have hc := hp.informed_of_configured hopen
    rw [hp.serverInfo]
    refine ⟨⟨hc, .inl ⟨rfl, score, rfl⟩⟩, ?_⟩
    intro v hv
    simpa [ToClient.score, eq_comm] using hv
  | state connHandle state _ hstate =>
    obtain ⟨hopen, rfl⟩ := Pair.indication_hvx h
    have hc := hp.informed_of_configured hopen
    rw [hp.serverInfo]
    refine ⟨⟨hc, .inr ⟨rfl, hstate.imp (congrArg indicated) (congrArg indicated)⟩⟩, ?_⟩
    intro v hv
    simp [ToClient.score, a.gameState_ne_serverScore] at hv
  | write => cases h
  | discover => cases h
  | display call hdisplay => cases (DeviceCall.display_silent hdisplay).1.symm.trans h

/-- What a client sends on its own is proper, and a score is its own. -/
theorem Pair.Wired.request (hp : p.Wired a) {score : UInt32} {call : DeviceCall}
    (hcall : OwnCall p.client.server p.client.client score call)
    (h : call.request = some m) :
    m.Proper a p.client.client ∧ ∀ v ∈ m.score a, v = score := by
  cases hcall with
  | score => cases h
  | state => cases h
  | write connHandle _ hclient =>
    cases h
    have hc := (hp.connected hclient).2
    rw [hc.info]
    refine ⟨⟨rfl, ⟨score, rfl⟩, hc⟩, ?_⟩
    intro v hv
    simpa [ToServer.score, eq_comm] using hv
  | discover =>
    cases h
    exact ⟨.inl rfl, nofun⟩
  | display call hdisplay =>
    cases (DeviceCall.display_silent (p := p) (a := a) hdisplay).2.symm.trans h

theorem Pair.request_eq_some {call : DeviceCall} (h : p.request call = some m) :
    p.linked = true ∧ call.request = some m := by
  unfold Pair.request at h
  split at h
  case isTrue hlinked => exact ⟨hlinked, h⟩
  case isFalse => cases h

-- ---------------------------------------------------------------------------
-- Steps keep it
-- ---------------------------------------------------------------------------

theorem Pair.Wired.atServer {server : Device} (hp : p.Wired a)
    (hown : OwnStep p.server server calls) :
    Pair.Wired a { p with server, toClient := p.toClient ++ calls.filterMap (p.indication a) } where
  serverInfo := hown.serverInfo.trans hp.serverInfo
  serverConn hlinked := hown.serverConn ▸ hp.serverConn hlinked
  clientRole := hp.clientRole
  connected := hp.connected
  configured := hp.configured
  toServer := hp.toServer
  toClient := by
    intro m hm
    rcases List.mem_append.mp hm with hm | hm
    · exact hp.toClient m hm
    · obtain ⟨call, hcall, hof⟩ := List.mem_filterMap.mp hm
      exact (hp.indication (hown.calls call hcall) hof).1
  unlinked hlinked := by
    refine ⟨(hp.unlinked hlinked).1, List.append_eq_nil_iff.mpr ⟨(hp.unlinked hlinked).2, ?_⟩⟩
    exact List.filterMap_eq_nil_iff.mpr fun call _ => Pair.indication_unlinked hlinked call

theorem Pair.Wired.atClient {client : Device} (hp : p.Wired a)
    (hown : OwnStep p.client client calls) :
    Pair.Wired a { p with client, toServer := p.toServer ++ calls.filterMap p.request } := by
  have hlearns : Learns a p.client.client client.client :=
    .of_eq hown.serviceHandle hown.clientInfo
  refine
    { serverInfo := hp.serverInfo
      serverConn := hp.serverConn
      clientRole := hown.isServiceServer.trans hp.clientRole
      connected := fun h => (hp.connected (hown.isServiceClient h)).imp_right hlearns.info
      configured := fun h => (hp.configured h).imp_right hlearns.info
      toServer := ?_
      toClient := fun m hm => (hp.toClient m hm).mono hlearns
      unlinked := ?_ }
  · intro m hm
    rcases List.mem_append.mp hm with hm | hm
    · exact (hp.toServer m hm).mono hlearns
    · obtain ⟨call, hcall, hof⟩ := List.mem_filterMap.mp hm
      exact (hp.request (hown.calls call hcall) (Pair.request_eq_some hof).2).1.mono hlearns
  · intro hlinked
    refine ⟨List.append_eq_nil_iff.mpr ⟨(hp.unlinked hlinked).1, ?_⟩, (hp.unlinked hlinked).2⟩
    exact List.filterMap_eq_nil_iff.mpr fun call _ => Pair.request_unlinked hlinked call

/-- A message leaves its queue, and nothing else happens. -/
theorem Pair.Wired.eraseToServer (hp : p.Wired a) (place : Nat) :
    Pair.Wired a { p with toServer := p.toServer.eraseIdx place } :=
  { hp with
    toServer := fun m hm => hp.toServer m (List.mem_of_mem_eraseIdx hm)
    unlinked := fun hlinked => by
      refine ⟨?_, (hp.unlinked hlinked).2⟩
      dsimp only
      rw [(hp.unlinked hlinked).1]
      exact List.eraseIdx_nil }

theorem Pair.Wired.deliverToServer (hp : p.Wired a)
    (h : pairStep t a p (.deliverToServer place) = some (p', outs)) :
    ∃ message calls, p.toServer[place]? = some message ∧
      { p with toServer := p.toServer.eraseIdx place }.serve a message = some (p', calls) ∧
      Served a { p with toServer := p.toServer.eraseIdx place } message p' ∧
      outs = calls.map (Side.server, ·) := by
  obtain ⟨message, calls, hmessage, hserve, houts⟩ := pairStep_deliverToServer h
  have hproper := hp.toServer message (List.mem_of_getElem? hmessage)
  exact ⟨message, calls, hmessage, hserve,
    Pair.serve_served (hp.eraseToServer place).serverInfo hproper hserve, houts⟩

theorem Pair.Wired.served (hp : p.Wired a) (hlinked : p.linked = true) (h : Served a p m p') :
    p'.Wired a := by
  obtain ⟨server, scoreConfig, stateConfig, toClient, rfl⟩ := h.frame
  obtain ⟨answers, htoClient, hanswers⟩ := h.answers
  cases htoClient
  refine
    { serverInfo := h.info.trans hp.serverInfo
      serverConn := fun hlinked => h.connHandle ▸ hp.serverConn hlinked
      clientRole := hp.clientRole
      connected := hp.connected
      configured := fun hconfig => ?_
      toServer := hp.toServer
      toClient := ?_
      unlinked := fun hunlinked => ?_ }
  · rcases h.configured hconfig with h | h | h
    · exact hp.configured (.inl h)
    · exact hp.configured (.inr h)
    · exact ⟨hlinked, h⟩
  · intro m hm
    rcases List.mem_append.mp hm with hm | hm
    · exact hp.toClient m hm
    · exact (hanswers m hm).1
  · cases hlinked.symm.trans hunlinked

theorem Pair.Wired.taken {client : ServiceClient} (hp : p.Wired a) (hlinked : p.linked = true)
    (place : Nat)
    (h : Taken a p.client.client client m clientCalls) :
    Pair.Wired a { p with
      client := { gameTakeState p.client clientCalls with client }
      toClient := p.toClient.eraseIdx place
      toServer := p.toServer ++ (clientCalls.map DeviceCall.client).filterMap p.request } where
  serverInfo := hp.serverInfo
  serverConn := hp.serverConn
  clientRole := by
    have hserver : (gameTakeState p.client clientCalls).server = p.client.server := by
      rw [gameTakeState_eq]
      cases (clientCalls.filterMap ClientCall.stateSet).getLast? <;> rfl
    exact (congrArg serviceServerIsConnected hserver).trans hp.clientRole
  connected hclient := by
    refine ⟨hlinked, ?_⟩
    rcases h.connected (by simpa [Device.isServiceClient, serviceClientIsConnected] using hclient)
      with hbefore | hinformed
    · refine h.learns.info (hp.connected ?_).2
      simpa [Device.isServiceClient, serviceClientIsConnected] using hbefore
    · exact hinformed
  configured hconfig := (hp.configured hconfig).imp_right h.learns.info
  toServer := by
    intro m hm
    rcases List.mem_append.mp hm with hm | hm
    · exact (hp.toServer m hm).mono h.learns
    · obtain ⟨call, hcall, hof⟩ := List.mem_filterMap.mp hm
      obtain ⟨clientCall, hmem, rfl⟩ := List.mem_map.mp hcall
      exact (h.requests clientCall hmem m (Pair.request_eq_some hof).2).1
  toClient m hm := (hp.toClient m (List.mem_of_mem_eraseIdx hm)).mono h.learns
  unlinked hunlinked := by cases hlinked.symm.trans hunlinked

theorem Pair.Wired.connect (hp : p.Wired a) (serverConn clientConn : ConnHandle) :
    Pair.Wired a { p with
      server := p.server.connected serverConn
      client := p.client.connected clientConn
      linked := true } where
  serverInfo := hp.serverInfo
  serverConn _ := serverConn.2
  clientRole := hp.clientRole
  connected h := ⟨rfl, (hp.connected h).2.serviceHandle, (hp.connected h).2.info⟩
  configured h := ⟨rfl, (hp.configured h).2.serviceHandle, (hp.configured h).2.info⟩
  toServer m hm := (hp.toServer m hm).mono (.of_eq rfl rfl)
  toClient m hm := (hp.toClient m hm).mono (.of_eq rfl rfl)
  unlinked := nofun

theorem Pair.Wired.disconnect (hp : p.Wired a) :
    (Pair.unlinked p.server.disconnected p.client.disconnected).Wired a where
  serverInfo := hp.serverInfo
  serverConn := nofun
  clientRole := rfl
  connected := nofun
  configured h := h.elim nofun nofun
  toServer := nofun
  toClient := nofun
  unlinked _ := ⟨rfl, rfl⟩

end

/-- Whatever a device does, it does on its own or on a message. -/
def PairEvent.isOwn : PairEvent → Bool
  | atServer event => event.isOwn
  | atClient event => event.isOwn
  | _ => true

theorem Pair.Wired.step (hp : Pair.Wired a p) (hown : event.isOwn = true)
    (h : pairStep t a p event = some (p', outs)) : p'.Wired a := by
  cases event with
  | atServer event =>
    obtain ⟨server, calls, hstep, rfl, -⟩ := pairStep_atServer h
    exact hp.atServer (deviceStep_own hown hstep)
  | atClient event =>
    obtain ⟨client, calls, hstep, rfl, -⟩ := pairStep_atClient h
    exact hp.atClient (deviceStep_own hown hstep)
  | deliverToServer place =>
    obtain ⟨message, calls, hmessage, -, hserved, -⟩ := hp.deliverToServer h
    have hlinked := hp.linked_of_toServer (List.mem_of_getElem? hmessage)
    exact (hp.eraseToServer place).served hlinked hserved
  | deliverToClient place uninit =>
    obtain ⟨message, client, clientCalls, hmessage, hevent, rfl, -⟩ := pairStep_deliverToClient h
    have hmem := List.mem_of_getElem? hmessage
    exact hp.taken (hp.linked_of_toClient hmem) place ((hp.toClient message hmem).taken hevent)
  | connect serverConn clientConn =>
    obtain ⟨-, -, rfl⟩ := pairStep_connect h
    exact hp.connect serverConn clientConn
  | disconnect =>
    obtain ⟨-, -, rfl⟩ := pairStep_disconnect h
    exact hp.disconnect

end WaterBall
