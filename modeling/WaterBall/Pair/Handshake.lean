import WaterBall.Pair.Wiring

/-!
# The client's configuration hand-shake

The client searches for the service, reads the table of handles and then the
four settings, each request from the handler of the response before. The
SoftDevice runs one request at a time and refuses another with
`NRF_ERROR_BUSY`. `service_client_write` asks again until it is taken; the
handler does not, so a score write that comes between a response and its
handler ends the chain.
-/

namespace WaterBall

open Support

-- ---------------------------------------------------------------------------
-- One request at a time
-- ---------------------------------------------------------------------------

/-- `waiting` are the writes that `service_client_write` is still repeating,
the newest first; `undelivered` are the events of completed requests, the
oldest first. -/
structure Handshake where
  server : Device
  client : Device
  waiting : List ToServer
  outstanding : Option ToServer
  undelivered : List ToClient
  deriving DecidableEq

inductive HandshakeEvent
  | setMyScore (score : UInt32)
  | write
  | complete
  | deliver
  deriving DecidableEq, Repr

def ToServer.isRequest : ToServer → Bool
  | discover _ => true
  | read _ _ => true
  | writeRequest _ _ => true
  | writeCommand _ _ => false
  | confirm _ => false

def Handshake.issue (h : Handshake) (message : ToServer) : Handshake :=
  if message.isRequest ∧ h.outstanding = none then { h with outstanding := some message } else h

/-- `service_try_connect` -/
def handshakeStart (server client : Device) : Handshake :=
  let (client, calls) := serviceTryConnect client
  let h : Handshake := ⟨server, client, [], none, []⟩
  (calls.filterMap DeviceCall.request).foldl Handshake.issue h

def handshakeStep (a : Attributes) (h : Handshake) :
    HandshakeEvent → Option (Handshake × List DeviceCall)
  | .setMyScore score =>
    let (client, calls) := gameSetMyScore h.client score
    some ({ h with client, waiting := calls.filterMap DeviceCall.request ++ h.waiting }, calls)
  | .write =>
    match h.waiting, h.outstanding with
    | [], _ => none
    | message :: waiting, none => some ({ h with waiting, outstanding := some message }, [])
    | _ :: _, some _ => some (h, [])
  | .complete => do
    let message ← h.outstanding
    let (p, calls) ← (Pair.unlinked h.server h.client).serve a message
    return ({ h with
      server := p.server
      outstanding := none
      undelivered := h.undelivered ++ p.toClient }, calls)
  | .deliver => do
    let message ← h.undelivered.head?
    let (client, calls) ← serviceOnBleEvt 0 h.client message.event
    let h := { h with client, undelivered := h.undelivered.tail }
    return ((calls.filterMap DeviceCall.request).foldl Handshake.issue h, calls)

structure Handshake.Quiet (h : Handshake) : Prop where
  client : h.client.client.state = .connected
  outstanding : h.outstanding = none
  undelivered : h.undelivered = []

instance (h : Handshake) : Decidable h.Quiet :=
  decidable_of_iff
    (h.client.client.state = .connected ∧ h.outstanding = none ∧ h.undelivered = [])
    ⟨fun ⟨h₁, h₂, h₃⟩ => ⟨h₁, h₂, h₃⟩, fun h => ⟨h.client, h.outstanding, h.undelivered⟩⟩

/-- The client's handler follows the response with a request of its own. -/
def ToClient.isFollowed (a : Attributes) : ToClient → Bool
  | services _ _ => true
  | value handle _ _ => handle != a.info.targetScoreHandle
  | _ => false

def Handshake.Prompt (a : Attributes) (h : Handshake) : HandshakeEvent → Prop
  | .deliver => ∀ message ∈ h.undelivered.head?, message.isFollowed a = true →
      h.outstanding = none
  | _ => True

instance (a : Attributes) (h : Handshake) : DecidablePred (h.Prompt a)
  | .deliver => Option.decidableForallMem _
  | .setMyScore _ | .write | .complete => isTrue trivial

-- ---------------------------------------------------------------------------
-- The settings
-- ---------------------------------------------------------------------------

/-- What the client reads, in this order. -/
inductive Setting
  | gameTime
  | vibration
  | hole
  | targetScore
  deriving DecidableEq, Repr

namespace Setting

def handle (i : ServiceInfo) : Setting → UInt16
  | gameTime => i.gameTimeHandle
  | vibration => i.vibrationHandle
  | hole => i.holeHandle
  | targetScore => i.targetScoreHandle

def register : Setting → Register
  | gameTime => .gameTime
  | vibration => .vibration
  | hole => .hole
  | targetScore => .targetScore

def copy : Setting → ServiceClient → UInt32
  | gameTime => serviceClientGetGameTime
  | vibration => serviceClientGetVibration
  | hole => serviceClientGetHole
  | targetScore => serviceClientGetTargetScore

def learn (c : ServiceClient) (value : UInt32) : Setting → ServiceClient
  | gameTime => { c with gameTime := value }
  | vibration => { c with vibration := value }
  | hole => { c with hole := value }
  | targetScore => { c with targetScore := value }

def rank : Setting → Nat
  | gameTime => 0
  | vibration => 1
  | hole => 2
  | targetScore => 3

def next : Setting → Option Setting
  | gameTime => some vibration
  | vibration => some hole
  | hole => some targetScore
  | targetScore => none

theorem rank_injective : Function.Injective rank := by
  intro s s' h
  cases s <;> cases s' <;> first | rfl | exact absurd h (by decide)

theorem rank_next (h : next s = some s') : s'.rank = s.rank + 1 := by
  cases s <;> cases h <;> rfl

theorem rank_last (h : next s = none) : s.rank = 3 := by
  cases s <;> first | rfl | cases h

theorem rank_lt (s : Setting) : s.rank < 4 := by
  cases s <;> decide

theorem copy_learn (s s' : Setting) (c : ServiceClient) (value : UInt32)
    (state : ServiceClientState) :
    s'.copy { s.learn c value with state } = if s' = s then value else s'.copy c := by
  cases s <;> cases s' <;> rfl

theorem learn_frame (s : Setting) (c : ServiceClient) (value : UInt32) :
    (s.learn c value).info = c.info ∧ (s.learn c value).serviceHandle = c.serviceHandle := by
  cases s <;> exact ⟨rfl, rfl⟩

theorem register_ne_clientScore (s : Setting) : s.register ≠ .clientScore := by
  cases s <;> decide

section
variable (a : Attributes) (s : Setting)

theorem uuidAt : a.uuidAt (s.handle a.info) = some s.register.uuid := by
  have h := a.distinct
  simp only [List.nodup_cons, List.mem_cons, not_or] at h
  cases s <;>
    simp [handle, register, Register.uuid, Attributes.uuidAt, Attributes.valueHandles,
      characteristics, Attributes.infoHandle, h]

theorem configuration : a.Configuration (s.handle a.info) := by
  cases s with
  | gameTime => exact .inl rfl
  | vibration => exact .inr (.inl rfl)
  | hole => exact .inr (.inr (.inl rfl))
  | targetScore => exact .inr (.inr (.inr rfl))

/-- The handler keeps the value and reads the next one. -/
theorem serviceClientOnReadRsp {c : ServiceClient} (hc : Informed a c) (value : UInt32) :
    WaterBall.serviceClientOnReadRsp c (s.handle a.info) 0 (LittleEndian.wordBytes value) =
      some ({ s.learn c value with state := .connected },
        s.next.toList.map fun n => .gattcRead c.connHandle (n.handle a.info) 0) := by
  have hinfo : ¬ c.serviceHandle.toNat + serviceInfoAttrOffset = (s.handle a.info).toNat := by
    rw [hc.serviceHandle, ← a.toNat_infoHandle, UInt16.toNat_inj]
    intro heq
    refine a.info_not_configuration ?_
    rw [heq]
    exact s.configuration a
  have h := a.distinct
  simp only [List.nodup_cons, List.mem_cons, not_or] at h
  unfold WaterBall.serviceClientOnReadRsp
  rw [if_neg hinfo, hc.info]
  cases s <;> simp [handle, learn, next, hc.info, h]

end

end Setting

-- ---------------------------------------------------------------------------
-- Stages
-- ---------------------------------------------------------------------------

inductive Stage
  | search
  | searchOn
  | table
  | config (setting : Setting)

def HasRead (s : ServiceServer) (c : ServiceClient) (rank : Nat) : Prop :=
  ∀ setting : Setting, setting.rank < rank → setting.copy c = setting.register.getter s

section
variable (a : Attributes)

def Stage.request : Stage → ToServer
  | .search => .discover serviceClientStartHandle
  | .searchOn => .discover (a.serviceHandle + 1)
  | .table => .read a.infoHandle 0
  | .config setting => .read (setting.handle a.info) 0

def Stage.answer (s : ServiceServer) : Stage → ToClient
  | .search => .services .success [a.serviceHandle]
  | .searchOn => .services .attributeNotFound []
  | .table => .value a.infoHandle 0 a.info.bytes
  | .config setting =>
    .value (setting.handle a.info) 0 (LittleEndian.wordBytes (setting.register.getter s))

/-- What the client knows while the request is under way. -/
def Stage.Ready (s : ServiceServer) (c : ServiceClient) : Stage → Prop
  | .search => c.state ≠ .connected
  | .searchOn => c.state ≠ .connected ∧ c.serviceHandle = a.serviceHandle
  | .table => c.state ≠ .connected ∧ c.serviceHandle = a.serviceHandle
  | .config setting => Informed a c ∧ HasRead s c setting.rank

def ToServer.IsScoreWrite (m : ToServer) : Prop :=
  ∃ score, m = .writeRequest a.info.clientScoreHandle (LittleEndian.wordBytes score)

end

theorem Stage.Ready.informed {stage : Stage} (hready : stage.Ready a s c)
    (hconnected : c.state = .connected) : Informed a c := by
  cases stage with
  | search => exact absurd hconnected hready
  | searchOn => exact absurd hconnected hready.1
  | table => exact absurd hconnected hready.1
  | config => exact hready.1

def SameSettings (s s' : ServiceServer) : Prop :=
  ∀ setting : Setting, setting.register.getter s' = setting.register.getter s

theorem HasRead.of_same (h : HasRead s c rank) (hsame : SameSettings s s') : HasRead s' c rank := by
  intro setting hrank
  rw [hsame setting]
  exact h setting hrank

theorem Stage.Ready.of_same {stage : Stage} (h : stage.Ready a s c) (hsame : SameSettings s s') :
    stage.Ready a s' c := by
  cases stage with
  | search => exact h
  | searchOn => exact h
  | table => exact h
  | config => exact ⟨h.1, h.2.of_same hsame⟩

theorem Stage.answer_of_same (stage : Stage) (hsame : SameSettings s s') :
    stage.answer a s' = stage.answer a s := by
  cases stage with
  | config setting => simp only [Stage.answer, hsame setting]
  | _ => rfl

-- ---------------------------------------------------------------------------
-- What the server makes of a request
-- ---------------------------------------------------------------------------

structure Answers (server : Device) (p : Pair) (answer : ToClient) : Prop where
  toClient : p.toClient = [answer]
  info : p.server.server.info = server.server.info
  settings : SameSettings server.server p.server.server

theorem answers_read {server : Device} {uuid : UInt16} {data : List UInt8}
    (huuid : a.uuidAt handle = some uuid)
    (hread : serviceServerAuthorizeRead server.server uuid 0 =
      ({ server.server with state }, [.gattsReplyRead server.server.connHandle
        ⟨.success, true, 0, len, some data⟩]))
    (h : (Pair.unlinked server client).serve a (.read handle 0) = some (p, calls)) :
    Answers server p (.value handle 0 data) := by
  obtain ⟨uuid', huuid', h⟩ := Option.bind_eq_some_iff.mp h
  cases huuid.symm.trans huuid'
  obtain ⟨⟨d, calls'⟩, hevent, hret⟩ := Option.bind_eq_some_iff.mp h
  cases hret
  obtain ⟨s, serverCalls, hserver, rfl, rfl⟩ := serviceOnBleEvt_request rfl hevent
  cases (congrArg some hread).symm.trans hserver
  exact ⟨rfl, rfl, fun setting => setting.register.getter_state server.server state⟩

theorem Stage.serve (stage : Stage) (hinfo : server.server.info = a.info)
    (h : (Pair.unlinked server client).serve a (stage.request a) = some (p, calls)) :
    Answers server p (stage.answer a server.server) := by
  cases stage with
  | search =>
    cases h
    exact ⟨congrArg ([·]) (if_pos a.service_pos), rfl, fun _ => rfl⟩
  | searchOn =>
    cases h
    exact ⟨congrArg ([·]) (if_neg a.not_succ_serviceHandle_le), rfl, fun _ => rfl⟩
  | table =>
    have hanswers := answers_read a.uuidAt_info (serviceServerAuthorizeRead_info server.server) h
    rw [hinfo] at hanswers
    exact hanswers
  | config setting =>
    have hoffset : (0 : UInt16).toNat ≤ 4 := Nat.zero_le 4
    have hread := Option.some.inj (serviceServer_read setting.register server.server hoffset)
    exact answers_read (setting.uuidAt a) hread h

theorem answers_scoreWrite {m : ToServer} (hm : m.IsScoreWrite a)
    (h : (Pair.unlinked server client).serve a m = some (p, calls)) :
    Answers server p .written := by
  obtain ⟨score, rfl⟩ := hm
  obtain ⟨uuid, huuid, h⟩ := Option.bind_eq_some_iff.mp h
  cases a.uuidAt_clientScore.symm.trans huuid
  obtain ⟨⟨d, calls'⟩, hevent, hret⟩ := Option.bind_eq_some_iff.mp h
  cases hret
  obtain ⟨s, serverCalls, hserver, rfl, rfl⟩ := serviceOnBleEvt_request rfl hevent
  have hwrite := serviceServer_write .clientScore server.server
    (LittleEndian.length_wordBytes score) []
  cases hwrite.symm.trans hserver
  refine ⟨rfl, (Register.clientScore.set_frame server.server _).1, fun setting => ?_⟩
  rw [Register.getter_set, if_neg setting.register_ne_clientScore]

-- ---------------------------------------------------------------------------
-- What the client makes of an answer
-- ---------------------------------------------------------------------------

def Stage.next : Stage → Option Stage
  | search => some searchOn
  | searchOn => some table
  | table => some (config .gameTime)
  | config setting => setting.next.map config

def Reached (a : Attributes) (s : ServiceServer) (c : ServiceClient) : Option Stage → Prop
  | some stage => stage.Ready a s c
  | none => Informed a c ∧ HasRead s c 4

theorem Reached.informed {stage : Option Stage} (h : Reached a s c stage)
    (hconnected : c.state = .connected) : Informed a c := by
  cases stage with
  | none => exact h.1
  | some stage => exact Stage.Ready.informed h hconnected

theorem Reached.of_same {stage : Option Stage} (h : Reached a s c stage)
    (hsame : SameSettings s s') : Reached a s' c stage := by
  cases stage with
  | none => exact ⟨h.1, h.2.of_same hsame⟩
  | some stage => exact Stage.Ready.of_same h hsame

/-- What the client asks for in its calls, commands and confirmations left out. -/
def requestsOf (calls : List ClientCall) : List ToServer :=
  ((calls.map DeviceCall.client).filterMap DeviceCall.request).filter ToServer.isRequest

/-- The client moves on and asks for what comes next. -/
structure MovesOn (a : Attributes) (s : ServiceServer) (c : ServiceClient) (calls : List ClientCall)
    (next : Option Stage) : Prop where
  reached : Reached a s c next
  requests : requestsOf calls = next.toList.map (Stage.request a)

theorem HasRead.learn {setting : Setting} (h : HasRead s c setting.rank)
    (state : ServiceClientState) :
    HasRead s { setting.learn c (setting.register.getter s) with state } (setting.rank + 1) := by
  intro other hrank
  rw [Setting.copy_learn]
  split
  case isTrue heq => rw [heq]
  case isFalse hne =>
    refine h other (Nat.lt_of_le_of_ne (Nat.le_of_lt_succ hrank) fun heq => hne ?_)
    exact Setting.rank_injective heq

theorem Stage.movesOn (stage : Stage) (hready : stage.Ready a s c)
    (h : serviceClientOnBleEvt 0 c (stage.answer a s).event = some (c', calls)) :
    MovesOn a s c' calls stage.next := by
  cases stage with
  | search =>
    cases h
    exact ⟨⟨hready, rfl⟩, rfl⟩
  | searchOn =>
    obtain ⟨hstate, hservice⟩ := hready
    have hfound : bleConnHandleInvalid ≠ c.serviceHandle := by
      rw [hservice]
      exact a.serviceHandle_ne_invalid
    cases (congrArg some (if_pos hfound)).symm.trans h
    refine ⟨⟨hstate, hservice⟩, ?_⟩
    rw [hservice]
    rfl
  | table =>
    obtain ⟨-, hservice⟩ := hready
    have hread : serviceClientOnReadRsp c a.infoHandle 0 a.info.bytes = some (c', calls) := h
    cases serviceClientOnReadRsp_ends hread with
    | info _ hcopy =>
      have hcopy' : copyToInfo c.info 0 a.info.bytes = some a.info := copyToInfo_bytes ..
      cases hcopy.symm.trans hcopy'
      exact ⟨⟨⟨hservice, rfl⟩, fun setting hrank => absurd hrank (Nat.not_lt_zero _)⟩, rfl⟩
    | config _ _ _ _ _ hinfo =>
      rw [hservice] at hinfo
      exact absurd a.toNat_infoHandle.symm hinfo
  | config setting =>
    obtain ⟨hc, hread⟩ := hready
    cases (setting.serviceClientOnReadRsp a hc _).symm.trans h
    have hlearn := hread.learn .connected
    have hinformed : Informed a
        { setting.learn c (setting.register.getter s) with state := .connected } := by
      obtain ⟨hinfo, hservice⟩ := setting.learn_frame c (setting.register.getter s)
      exact ⟨hservice.trans hc.serviceHandle, hinfo.trans hc.info⟩
    cases hnext : setting.next with
    | none =>
      rw [Setting.rank_last hnext] at hlearn
      simp only [Stage.next, hnext]
      exact ⟨⟨hinformed, hlearn⟩, rfl⟩
    | some other =>
      rw [← Setting.rank_next hnext] at hlearn
      simp only [Stage.next, hnext]
      exact ⟨⟨hinformed, hlearn⟩, rfl⟩

theorem Stage.answer_isFollowed (stage : Stage) (s : ServiceServer)
    (hnext : stage.next = some stage') : (stage.answer a s).isFollowed a = true := by
  have hne : ∀ handle offset data, handle ≠ a.info.targetScoreHandle →
      (ToClient.value handle offset data).isFollowed a = true := fun _ _ _ h => bne_iff_ne.mpr h
  have h := a.distinct
  simp only [List.nodup_cons, List.mem_cons, not_or] at h
  cases stage with
  | search => rfl
  | searchOn => rfl
  | table => exact hne _ _ _ h.1.2.2.2.2.2.2.2.1
  | config setting =>
    refine hne _ _ _ ?_
    cases setting with
    | gameTime => exact h.2.2.2.2.2.1.2.2.1
    | vibration => exact h.2.2.2.2.2.2.1.2.1
    | hole => exact h.2.2.2.2.2.2.2.1.1
    | targetScore => cases hnext

-- ---------------------------------------------------------------------------
-- Calls
-- ---------------------------------------------------------------------------

theorem gameSetMyScore_requests (d : Device) (score : UInt32) :
    ∀ m ∈ (gameSetMyScore d score).2.filterMap DeviceCall.request, d.isServiceClient = true ∧
      m = .writeRequest d.client.info.clientScoreHandle (LittleEndian.wordBytes score) := by
  intro m hm
  obtain ⟨call, hcall, hof⟩ := List.mem_filterMap.mp hm
  cases hserver : d.isServiceServer with
  | true =>
    rw [gameSetMyScore_asServer hserver] at hcall
    rw [mem_hvxSend hcall] at hof
    cases hof
  | false =>
    cases hclient : d.isServiceClient with
    | true =>
      rw [gameSetMyScore_asClient hserver hclient] at hcall
      rw [List.mem_singleton.mp hcall] at hof
      cases hof
      exact ⟨rfl, rfl⟩
    | false =>
      rw [gameSetMyScore_alone hserver hclient] at hcall
      cases hcall

section
variable (h : Handshake) (messages : List ToServer)

theorem Handshake.foldl_issue : messages.foldl Handshake.issue h =
    (messages.filter ToServer.isRequest).foldl Handshake.issue h := by
  induction messages generalizing h with
  | nil => rfl
  | cons message messages ih =>
    cases hrequest : message.isRequest with
    | true =>
      rw [List.filter_cons_of_pos hrequest]
      exact ih _
    | false =>
      have hpass : h.issue message = h := by simp [Handshake.issue, hrequest]
      rw [List.filter_cons_of_neg (by simp [hrequest]), List.foldl_cons, hpass]
      exact ih h

end

theorem Stage.request_isRequest (a : Attributes) (stage : Stage) :
    (stage.request a).isRequest = true := by
  cases stage <;> rfl

/-- A free SoftDevice takes the request of the next stage. -/
theorem Handshake.issue_next {h : Handshake} (next : Option Stage)
    (hfree : next ≠ none → h.outstanding = none) :
    (next.toList.map (Stage.request a)).foldl Handshake.issue h =
      { h with outstanding := (next.map (Stage.request a)).or h.outstanding } := by
  cases next with
  | none => rfl
  | some stage => exact if_pos ⟨stage.request_isRequest a, hfree nofun⟩

-- ---------------------------------------------------------------------------
-- The invariant
-- ---------------------------------------------------------------------------

/-- Where the request of the stage is, with score writes around it; without a
stage only these are left. -/
inductive Handshake.Holds (a : Attributes) (h : Handshake) : Option Stage → Prop
  | outstanding (stage : Stage) (hout : h.outstanding = some (stage.request a))
      (hevents : ∀ m ∈ h.undelivered, m = .written) : h.Holds a (some stage)
  | answered (stage : Stage) (before after : List ToClient)
      (hout : ∀ m ∈ h.outstanding, m.IsScoreWrite a)
      (hevents : h.undelivered = before ++ stage.answer a h.server.server :: after)
      (hbefore : ∀ m ∈ before, m = .written) (hafter : ∀ m ∈ after, m = .written) :
      h.Holds a (some stage)
  | settled (hout : ∀ m ∈ h.outstanding, m.IsScoreWrite a)
      (hevents : ∀ m ∈ h.undelivered, m = .written) : h.Holds a none

structure Handshake.OnTrack (a : Attributes) (h : Handshake) : Prop where
  info : h.server.server.info = a.info
  waiting : ∀ m ∈ h.waiting, m.IsScoreWrite a
  stage : ∃ stage, Reached a h.server.server h.client.client stage ∧ h.Holds a stage

section
variable {a : Attributes} {h : Handshake}

theorem handshakeStart_onTrack (hinfo : server.server.info = a.info)
    (hconn : client.client.connHandle ≠ bleConnHandleInvalid) :
    (handshakeStart server client).OnTrack a := by
  have htry : serviceTryConnect client = ({ client with client.state := .connecting },
      [.client (.gattcPrimaryServicesDiscover client.client.connHandle
        serviceClientStartHandle)]) := by
    unfold serviceTryConnect serviceClientTryConnect
    rw [if_neg (Ne.symm hconn)]
    rfl
  unfold handshakeStart
  rw [htry]
  exact ⟨hinfo, nofun, some .search, nofun, .outstanding .search rfl nofun⟩

theorem Handshake.OnTrack.setMyScore (hon : h.OnTrack a) (score : UInt32) :
    Handshake.OnTrack a { h with
      client := (gameSetMyScore h.client score).1
      waiting := (gameSetMyScore h.client score).2.filterMap DeviceCall.request ++ h.waiting } := by
  obtain ⟨hinfo, hwaiting, stage, hreached, hholds⟩ := hon
  refine ⟨hinfo, List.forall_mem_append.mpr ⟨?_, hwaiting⟩, stage, ?_, ?_⟩
  · intro m hm
    obtain ⟨hclient, rfl⟩ := gameSetMyScore_requests h.client score m hm
    have hconnected : h.client.client.state = .connected := by
      simpa [Device.isServiceClient, serviceClientIsConnected] using hclient
    rw [(hreached.informed hconnected).info]
    exact ⟨score, rfl⟩
  · rw [gameSetMyScore_client]
    exact hreached
  · cases hholds with
    | outstanding stage hout hevents => exact .outstanding stage hout hevents
    | answered stage before after hout hevents hbefore hafter =>
      exact .answered stage before after hout hevents hbefore hafter
    | settled hout hevents => exact .settled hout hevents

theorem Handshake.OnTrack.write (hon : h.OnTrack a) {waiting : List ToServer}
    (hwaiting : h.waiting = message :: waiting) (hout : h.outstanding = none) :
    Handshake.OnTrack a { h with waiting, outstanding := some message } := by
  obtain ⟨hinfo, hwrites, stage, hreached, hholds⟩ := hon
  rw [hwaiting] at hwrites
  obtain ⟨hmessage, hwrites⟩ := List.forall_mem_cons.mp hwrites
  have hone : ∀ m ∈ some message, m.IsScoreWrite a := by
    rintro m ⟨⟩
    exact hmessage
  refine ⟨hinfo, hwrites, stage, hreached, ?_⟩
  cases hholds with
  | outstanding stage hrequest => cases hrequest.symm.trans hout
  | answered stage before after _ hevents hbefore hafter =>
    exact .answered stage before after hone hevents hbefore hafter
  | settled _ hevents => exact .settled hone hevents

theorem Handshake.OnTrack.complete (hon : h.OnTrack a) (hout : h.outstanding = some message)
    (hserve : (Pair.unlinked h.server h.client).serve a message = some (p, calls)) :
    Handshake.OnTrack a { h with
      server := p.server
      outstanding := none
      undelivered := h.undelivered ++ p.toClient } := by
  obtain ⟨hinfo, hwaiting, stage, hreached, hholds⟩ := hon
  have hwritten : ∀ m ∈ [ToClient.written], m = .written := fun m hm => List.mem_singleton.mp hm
  cases hholds with
  | outstanding stage hrequest hevents =>
    cases hrequest.symm.trans hout
    have hanswers := stage.serve hinfo hserve
    refine ⟨hanswers.info.trans hinfo, hwaiting, some stage, hreached.of_same hanswers.settings, ?_⟩
    refine .answered stage h.undelivered [] nofun ?_ hevents nofun
    rw [hanswers.toClient, stage.answer_of_same hanswers.settings]
  | answered stage before after hwrite hevents hbefore hafter =>
    have hanswers := answers_scoreWrite (hwrite message hout) hserve
    refine ⟨hanswers.info.trans hinfo, hwaiting, some stage, hreached.of_same hanswers.settings, ?_⟩
    refine .answered stage before (after ++ [.written]) nofun ?_ hbefore
      (List.forall_mem_append.mpr ⟨hafter, hwritten⟩)
    rw [hanswers.toClient, hevents, stage.answer_of_same hanswers.settings]
    exact List.append_assoc ..
  | settled hwrite hevents =>
    have hanswers := answers_scoreWrite (hwrite message hout) hserve
    refine ⟨hanswers.info.trans hinfo, hwaiting, none, hreached.of_same hanswers.settings, ?_⟩
    refine .settled nofun ?_
    rw [hanswers.toClient]
    exact List.forall_mem_append.mpr ⟨hevents, hwritten⟩

theorem Handshake.OnTrack.written (hon : h.OnTrack a) {events : List ToClient}
    (hevents : h.undelivered = .written :: events) :
    Handshake.OnTrack a { h with undelivered := events } := by
  obtain ⟨hinfo, hwaiting, stage, hreached, hholds⟩ := hon
  refine ⟨hinfo, hwaiting, stage, hreached, ?_⟩
  cases hholds with
  | outstanding stage hrequest hwrites =>
    rw [hevents] at hwrites
    exact .outstanding stage hrequest (List.forall_mem_cons.mp hwrites).2
  | answered stage before after hout hsplit hbefore hafter =>
    cases before with
    | nil =>
      cases stage with
      | _ => cases hsplit.symm.trans hevents
    | cons m before =>
      cases hsplit.symm.trans hevents
      exact .answered stage before after hout rfl (List.forall_mem_cons.mp hbefore).2 hafter
  | settled hout hwrites =>
    rw [hevents] at hwrites
    exact .settled hout (List.forall_mem_cons.mp hwrites).2

theorem Handshake.OnTrack.deliver (hon : h.OnTrack a) {events : List ToClient} {d : Device}
    (hevents : h.undelivered = message :: events) (hprompt : h.Prompt a .deliver)
    (hevent : serviceOnBleEvt 0 h.client message.event = some (d, calls)) :
    Handshake.OnTrack a ((calls.filterMap DeviceCall.request).foldl Handshake.issue
      { h with client := d, undelivered := events }) := by
  have hpass : serviceOnBleEvt 0 h.client ToClient.written.event = some (h.client, []) := rfl
  by_cases hwritten : message = .written
  · cases hwritten
    cases hpass.symm.trans hevent
    exact hon.written hevents
  obtain ⟨hinfo, hwaiting, stage, hreached, hholds⟩ := hon
  have hhead : ¬ ∀ m ∈ h.undelivered, m = .written := by
    rw [hevents]
    exact fun hwrites => hwritten (List.forall_mem_cons.mp hwrites).1
  cases hholds with
  | outstanding stage _ hwrites => exact absurd hwrites hhead
  | settled _ hwrites => exact absurd hwrites hhead
  | answered stage before after hout hsplit hbefore hafter =>
    cases before with
    | cons m before =>
      cases hsplit.symm.trans hevents
      exact absurd (hbefore _ List.mem_cons_self) hwritten
    | nil =>
      cases hsplit.symm.trans hevents
      obtain ⟨c, clientCalls, hclient, rfl, rfl⟩ := serviceOnBleEvt_message hevent
      have hmoves := stage.movesOn hreached hclient
      have hfree : stage.next ≠ none → h.outstanding = none := by
        intro hnext
        obtain ⟨next, hnext⟩ := Option.ne_none_iff_exists'.mp hnext
        exact hprompt _ (by rw [hevents]; rfl) (Stage.answer_isFollowed stage _ hnext)
      have hrequests : (((clientCalls.map DeviceCall.client).filterMap DeviceCall.request).filter
          ToServer.isRequest) = stage.next.toList.map (Stage.request a) := hmoves.requests
      rw [Handshake.foldl_issue, hrequests, Handshake.issue_next]
      · refine ⟨hinfo, hwaiting, stage.next, hmoves.reached, ?_⟩
        cases stage.next with
        | none => exact .settled hout hafter
        | some next => exact .outstanding next rfl hafter
      · exact hfree

theorem Handshake.OnTrack.step (hon : h.OnTrack a) (hprompt : h.Prompt a event)
    (hstep : handshakeStep a h event = some (h', calls)) : h'.OnTrack a := by
  cases event with
  | setMyScore score =>
    cases hstep
    exact hon.setMyScore score
  | write =>
    simp only [handshakeStep] at hstep
    split at hstep
    case h_1 => cases hstep
    case h_2 hwaiting hout =>
      cases hstep
      exact hon.write hwaiting hout
    case h_3 =>
      -- A busy SoftDevice is asked again.
      cases hstep
      exact hon
  | complete =>
    obtain ⟨message, hout, hrest⟩ := Option.bind_eq_some_iff.mp hstep
    obtain ⟨⟨p, calls'⟩, hserve, hret⟩ := Option.bind_eq_some_iff.mp hrest
    cases hret
    exact hon.complete hout hserve
  | deliver =>
    obtain ⟨message, hhead, hrest⟩ := Option.bind_eq_some_iff.mp hstep
    obtain ⟨⟨d, calls'⟩, hevent, hret⟩ := Option.bind_eq_some_iff.mp hrest
    obtain ⟨events, hevents⟩ := List.head?_eq_some_iff.mp hhead
    cases hret
    rw [hevents]
    exact hon.deliver hevents hprompt hevent

end

/-- As long as no other request has been started by the time a response is
delivered that the client follows with a request, a connected client at rest
has all of the server's settings. -/
theorem handshake_settled (a : Attributes) {server client : Device}
    (hinfo : server.server.info = a.info)
    (hconn : client.client.connHandle ≠ bleConnHandleInvalid) (events : List HandshakeEvent)
    (hprompt : Runs.Guarded (handshakeStep a) (Handshake.Prompt a) (handshakeStart server client)
      events)
    (h : Handshake) (calls : List DeviceCall)
    (hrun : Runs.run (handshakeStep a) (handshakeStart server client) events = some (h, calls))
    (hquiet : h.Quiet) :
    serviceClientGetGameTime h.client.client = serviceServerGetGameTime h.server.server ∧
      serviceClientGetVibration h.client.client = serviceServerGetVibration h.server.server ∧
      serviceClientGetHole h.client.client = serviceServerGetHole h.server.server ∧
      serviceClientGetTargetScore h.client.client =
        serviceServerGetTargetScore h.server.server := by
  have hon : h.OnTrack a := hprompt.keeps (fun _ _ _ _ hon hprompt hstep => hon.step hprompt hstep)
    (handshakeStart_onTrack hinfo hconn) hrun
  obtain ⟨-, -, stage, hreached, hholds⟩ := hon
  cases hholds with
  | outstanding stage hrequest => cases hrequest.symm.trans hquiet.outstanding
  | answered stage before after _ hevents =>
    rw [hquiet.undelivered] at hevents
    simp at hevents
  | settled =>
    have hread : ∀ setting : Setting, setting.copy h.client.client =
        setting.register.getter h.server.server := fun setting => hreached.2 setting setting.rank_lt
    exact ⟨hread .gameTime, hread .vibration, hread .hole, hread .targetScore⟩

def linkedServer : Device := (deviceBoot attributesAt16.valueHandles).connected 0
def linkedClient : Device := (deviceBoot []).connected 0

def searches : List HandshakeEvent := [.complete, .deliver, .complete, .deliver]

/-- A score is set as soon as the client is connected. Its write stays busy until
the last setting has been read. -/
def promptWrites : List HandshakeEvent :=
  searches ++ [.complete, .deliver, .setMyScore 4, .write, .complete, .deliver, .complete, .deliver,
    .complete, .deliver, .complete, .write, .deliver, .complete, .deliver]

theorem handshake_settled_promptWrites : ∃ h calls,
    Runs.run (handshakeStep attributesAt16) (handshakeStart linkedServer linkedClient)
      promptWrites = some (h, calls) ∧
      h.Quiet ∧ serviceClientGetGameTime h.client.client = 60000 ∧
      serviceServerGetGameTime h.server.server = 60000 := by
  have hfinal : (Runs.run (handshakeStep attributesAt16) (handshakeStart linkedServer linkedClient)
      promptWrites).map (fun final =>
        (decide final.1.Quiet, serviceServerGetGameTime final.1.server.server)) =
          some (true, 60000) := by
    decide +kernel
  obtain ⟨⟨h, calls⟩, hrun, heq⟩ := Option.map_eq_some_iff.mp hfinal
  obtain ⟨hquiet, htime⟩ : h.Quiet ∧ serviceServerGetGameTime h.server.server = 60000 := by
    simpa using heq
  have hsettled := handshake_settled attributesAt16 rfl (by decide) promptWrites (by decide +kernel)
    h calls hrun hquiet
  exact ⟨h, calls, hrun, hquiet, hsettled.1.trans htime, htime⟩

/-- The score is set between the response with the game time and its handler,
which then cannot ask for the next setting. -/
def lateWrite : List HandshakeEvent :=
  searches ++ [.complete, .deliver, .complete, .setMyScore 4, .write, .deliver, .complete, .deliver]

theorem handshake_settled_lateWrite : ∃ h calls,
    Runs.run (handshakeStep attributesAt16) (handshakeStart linkedServer linkedClient) lateWrite =
        some (h, calls) ∧
      h.Quiet ∧ serviceClientGetVibration h.client.client = 0 ∧
      serviceServerGetVibration h.server.server = 1 := by
  have hfinal : (Runs.run (handshakeStep attributesAt16) (handshakeStart linkedServer linkedClient)
      lateWrite).map (fun final =>
        (decide final.1.Quiet, serviceClientGetVibration final.1.client.client,
          serviceServerGetVibration final.1.server.server)) = some (true, 0, 1) := by
    decide +kernel
  obtain ⟨⟨h, calls⟩, hrun, heq⟩ := Option.map_eq_some_iff.mp hfinal
  obtain ⟨hquiet, hclient, hserver⟩ : h.Quiet ∧ serviceClientGetVibration h.client.client = 0 ∧
      serviceServerGetVibration h.server.server = 1 := by simpa using heq
  exact ⟨h, calls, hrun, hquiet, hclient, hserver⟩

end WaterBall
