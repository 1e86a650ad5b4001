import WaterBall.Application.Sessions

/-!
# Two players

Two devices that start with BUTTON_1 pushed on one of them. Each has the server
and the client of the service, and a radio that meets others in one role only,
so the one that advertises is always the server and the other one the client.
-/

namespace WaterBall

open Support

-- ---------------------------------------------------------------------------
-- What a step does to the device
-- ---------------------------------------------------------------------------

/-- What comes of a step of the application, for its device. -/
inductive DeviceMove (t : AppTimer) (button1 : Bool) (s : Application) :
    Device → List DeviceCall → Prop
  | still : DeviceMove t button1 s s.device []
  | own (event : DeviceEvent) (hown : event.isOwn = true) (hsearch : event ≠ .tryConnect)
      (hstep : deviceStep t s.device event = some (d', calls)) : DeviceMove t button1 s d' calls
  | service (evt : BleEvt) (uninit : UInt32) (hwaits : .gatt evt ∈ s.waiting)
      (hevt : evt.OfAttributes)
      (hservice : serviceOnBleEvt uninit s.device evt = some (d', calls)) :
      DeviceMove t button1 s d' calls
  | connected (connHandle : UInt16) : DeviceMove t button1 s (s.device.connected connHandle) []
  | search (connHandle : UInt16) (hbutton : button1 = false) :
      DeviceMove t button1 s { s.device.connected connHandle with client.state := .connecting }
        [.client (.gattcPrimaryServicesDiscover connHandle serviceClientStartHandle)]
  | disconnected : DeviceMove t button1 s s.device.disconnected []

def ApplicationEvent.arriving : ApplicationEvent → Option BleEvt
  | gatt evt => some evt
  | _ => none

section
variable {s s' : Application} {button1 : Bool} {calls : List DeviceCall}

theorem Delivered.device (h : s.Coherent button1) (hdelivered : Delivered uninit s s' calls) :
    DeviceMove t button1 s s'.device calls := by
  have hwaits := h.waiting
  cases hdelivered with
  | nothing => exact .still
  | service evt rest hwaiting hservice =>
    rw [hwaiting] at hwaits
    exact .service evt uninit (hwaiting ▸ List.mem_cons_self) hwaits.2.1 hservice
  | link evt rest hwaiting hok hdispatched hservice =>
    rw [hwaiting] at hwaits
    have hevents : s.radio.gap.events = evt :: rest.filterMap StackEvt.gapEvt := by
      rw [h.events, hwaiting]
      rfl
    cases hdispatched with
    | connected role =>
      have hcentral := h.radio.connected hevents
      cases hservice
      by_cases hrole : role = .central
      · rw [if_pos hrole, serviceTake_central _ fun heq => hwaits.1 (congrArg some heq)]
        exact .search _ (hcentral.mp hrole)
      · rw [if_neg hrole]
        exact .connected _
    | disconnected =>
      cases hservice
      exact .disconnected
    | other evt hlink =>
      have hpass : (StackEvt.gap evt).service = .other := by
        cases evt with
        | connected | disconnected => cases hlink
        | _ => rfl
      rw [hpass] at hservice
      cases hservice
      exact .still

theorem applicationStep_device (h : s.Coherent button1) {event : ApplicationEvent}
    (hreal : event.Real button1 s) (hstep : applicationStep t s event = some (s', calls)) :
    DeviceMove t button1 s s'.device calls := by
  cases event with
  | main | storageResume =>
    obtain ⟨⟨radio, radioCalls⟩, -, hret⟩ := Option.bind_eq_some_iff.mp hstep
    cases hret
    exact .still
  | own event =>
    unfold applicationStep at hstep
    dsimp only at hstep
    split at hstep
    · cases hstep
      exact .still
    · obtain ⟨⟨device, deviceCalls⟩, hown, hret⟩ := Option.bind_eq_some_iff.mp hstep
      cases hret
      exact .own event hreal.1 hreal.2 hown
  | air | gatt =>
    cases hstep
    exact .still
  | deliver uninit => exact (applicationStep_deliver h.events hstep).device h

theorem applicationStep_waiting (h : s.Coherent button1) {event : ApplicationEvent} {evt : BleEvt}
    (hstep : applicationStep t s event = some (s', calls)) (hwaits : .gatt evt ∈ s'.waiting) :
    .gatt evt ∈ s.waiting ∨ evt ∈ event.arriving := by
  cases event with
  | main | storageResume =>
    obtain ⟨⟨radio, radioCalls⟩, -, hret⟩ := Option.bind_eq_some_iff.mp hstep
    cases hret
    exact .inl hwaits
  | own event =>
    unfold applicationStep at hstep
    dsimp only at hstep
    split at hstep
    · cases hstep
      exact .inl hwaits
    · obtain ⟨⟨device, deviceCalls⟩, -, hret⟩ := Option.bind_eq_some_iff.mp hstep
      cases hret
      exact .inl hwaits
  | air change =>
    cases hstep
    refine (List.mem_append.mp hwaits).imp_right fun harrived => ?_
    obtain ⟨gapEvt, -, heq⟩ := List.mem_map.mp harrived
    cases heq
  | gatt arrived =>
    cases hstep
    refine (List.mem_append.mp hwaits).imp_right fun harrived => ?_
    cases List.mem_singleton.mp harrived
    rfl
  | deliver uninit =>
    cases applicationStep_deliver h.events hstep with
    | nothing => exact .inl hwaits
    | service _ _ hwaiting | link _ _ hwaiting =>
      exact .inl (hwaiting ▸ List.mem_cons_of_mem _ hwaits)

end

-- ---------------------------------------------------------------------------
-- One half of the service
-- ---------------------------------------------------------------------------

/-- The events that a client asks for. -/
def BleEvt.ofClient : BleEvt → Bool
  | gattcPrimSrvcDiscRsp .. => true
  | gattcReadRsp .. => true
  | gattcWriteRsp => true
  | gattcHvx .. => true
  | gattcTimeout => true
  | _ => false

/-- The events that come of what the peer's client asks for. -/
def BleEvt.ofServer : BleEvt → Bool
  | gattsAuthorizeRead .. => true
  | gattsAuthorizeWrite .. => true
  | gattsAuthorizeInvalid => true
  | gattsSysAttrMissing => true
  | gattsHvc => true
  | gattsTimeout => true
  | _ => false

def DeviceCall.ofClient : DeviceCall → Bool
  | client _ => true
  | _ => false

def DeviceCall.ofServer : DeviceCall → Bool
  | server _ => true
  | _ => false

structure Application.NoClient (s : Application) : Prop where
  role : s.device.isServiceClient = false
  waiting : ∀ evt, .gatt evt ∈ s.waiting → evt.ofClient = false

structure Application.NoServer (s : Application) : Prop where
  role : s.device.isServiceServer = false
  waiting : ∀ evt, .gatt evt ∈ s.waiting → evt.ofServer = false

section
variable {s s' : Application} {event : ApplicationEvent} {calls : List DeviceCall}

theorem Application.NoClient.step (h : s.NoClient) (hcoherent : s.Coherent true)
    (hreal : event.Real true s) (harrives : ∀ evt ∈ event.arriving, evt.ofClient = false)
    (hstep : applicationStep t s event = some (s', calls)) :
    s'.NoClient ∧ ∀ call ∈ calls, call.ofClient = false := by
  have hwaiting : ∀ evt, .gatt evt ∈ s'.waiting → evt.ofClient = false := fun evt hwaits =>
    (applicationStep_waiting hcoherent hstep hwaits).elim (h.waiting evt) (harrives evt)
  suffices hdevice : s'.device.isServiceClient = false ∧ ∀ call ∈ calls, call.ofClient = false from
    ⟨⟨hdevice.1, hwaiting⟩, hdevice.2⟩
  have hmove := applicationStep_device hcoherent hreal hstep
  generalize s'.device = device at hmove ⊢
  cases hmove with
  | still => exact ⟨h.role, nofun⟩
  | own event hown hsearch hdevice =>
    refine ⟨?_, fun call hcall => ?_⟩
    · refine Bool.eq_false_iff.mpr fun hrole => ?_
      exact Bool.eq_false_iff.mp h.role ((deviceStep_own hown hdevice).isServiceClient hrole)
    · cases (deviceStep_sends hown hsearch hdevice).calls call hcall with
      | indication => rfl
      | write hclient => exact absurd hclient (Bool.eq_false_iff.mp h.role)
      | display call hdisplay =>
        cases call with
        | client => cases hdisplay
        | _ => rfl
  | service evt uninit hwaits hevt hservice =>
    obtain ⟨client, clientCalls, server, serverCalls, hclient, -, rfl, rfl⟩ :=
      serviceOnBleEvt_ends hservice
    have hother := h.waiting evt hwaits
    have hpass : client = s.device.client ∧ clientCalls = [] := by
      cases evt with
      | gapConnected | gapDisconnected => exact hevt.elim
      | gattcPrimSrvcDiscRsp | gattcReadRsp | gattcWriteRsp | gattcHvx | gattcTimeout =>
        cases hother
      | _ =>
        cases hclient
        exact ⟨rfl, rfl⟩
    obtain ⟨rfl, rfl⟩ := hpass
    refine ⟨h.role, fun call hcall => ?_⟩
    obtain ⟨serverCall, -, rfl⟩ := List.mem_map.mp hcall
    rfl
  | connected => exact ⟨h.role, nofun⟩
  | search connHandle hbutton => cases hbutton
  | disconnected => exact ⟨rfl, nofun⟩

theorem Application.NoServer.step (h : s.NoServer) (hcoherent : s.Coherent button1)
    (hreal : event.Real button1 s) (harrives : ∀ evt ∈ event.arriving, evt.ofServer = false)
    (hstep : applicationStep t s event = some (s', calls)) :
    s'.NoServer ∧ ∀ call ∈ calls, call.ofServer = false := by
  have hwaiting : ∀ evt, .gatt evt ∈ s'.waiting → evt.ofServer = false := fun evt hwaits =>
    (applicationStep_waiting hcoherent hstep hwaits).elim (h.waiting evt) (harrives evt)
  suffices hdevice : s'.device.isServiceServer = false ∧ ∀ call ∈ calls, call.ofServer = false from
    ⟨⟨hdevice.1, hwaiting⟩, hdevice.2⟩
  have hmove := applicationStep_device hcoherent hreal hstep
  generalize s'.device = device at hmove ⊢
  cases hmove with
  | still => exact ⟨h.role, nofun⟩
  | own event hown hsearch hdevice =>
    refine ⟨(deviceStep_own hown hdevice).isServiceServer.trans h.role, fun call hcall => ?_⟩
    cases (deviceStep_sends hown hsearch hdevice).calls call hcall with
    | indication hserver => exact absurd hserver (Bool.eq_false_iff.mp h.role)
    | write => rfl
    | display call hdisplay =>
      cases call with
      | server => cases hdisplay
      | _ => rfl
  | service evt uninit hwaits hevt hservice =>
    obtain ⟨client, clientCalls, server, serverCalls, -, hserver, rfl, rfl⟩ :=
      serviceOnBleEvt_ends hservice
    have hother := h.waiting evt hwaits
    have hpass : server = s.device.server ∧ serverCalls = [] := by
      cases evt with
      | gapConnected | gapDisconnected => exact hevt.elim
      | gattsAuthorizeRead | gattsAuthorizeWrite | gattsAuthorizeInvalid | gattsSysAttrMissing
      | gattsHvc | gattsTimeout => cases hother
      | _ =>
        cases hserver
        exact ⟨rfl, rfl⟩
    obtain ⟨rfl, rfl⟩ := hpass
    refine ⟨h.role, fun call hcall => ?_⟩
    rw [List.map_nil, List.append_nil] at hcall
    obtain ⟨clientCall, -, rfl⟩ := List.mem_map.mp hcall
    rfl
  | connected => exact ⟨h.role, nofun⟩
  | search => exact ⟨h.role, List.forall_mem_singleton.mpr rfl⟩
  | disconnected => exact ⟨rfl, nofun⟩

end

-- ---------------------------------------------------------------------------
-- Two players
-- ---------------------------------------------------------------------------

structure Player where
  app : Application
  asked : Bool
  deriving DecidableEq

def playerStep (t : AppTimer) (p : Player) (event : ApplicationEvent) :
    Option (Player × List DeviceCall) := do
  let (app, calls) ← applicationStep t p.app event
  return ({ app, asked := p.asked || calls.any DeviceCall.ofClient }, calls)

structure Players where
  advertiser : Player
  searcher : Player
  deriving DecidableEq

def Players.player (p : Players) (button1 : Bool) : Player :=
  if button1 then p.advertiser else p.searcher

def playersBoot (valueHandles : Bool → List UInt16) : Players where
  advertiser := ⟨applicationBoot (valueHandles true), false⟩
  searcher := ⟨applicationBoot (valueHandles false), false⟩

/-- An event at one of the players, who are told apart by BUTTON_1. -/
structure PlayersEvent where
  button1 : Bool
  event : ApplicationEvent
  deriving DecidableEq

def playersStep (t : AppTimer) (p : Players) (e : PlayersEvent) :
    Option (Players × List (Bool × DeviceCall)) := do
  let (player, calls) ← playerStep t (p.player e.button1) e.event
  let players :=
    if e.button1 then { p with advertiser := player } else { p with searcher := player }
  return (players, calls.map (e.button1, ·))

/-- The players are each other's peers: what a server is asked for comes from
the other player's client, and what a client hears from what it has asked for. -/
def PlayersEvent.Played (p : Players) (e : PlayersEvent) : Prop :=
  e.event.Real e.button1 (p.player e.button1).app ∧
    ∀ evt ∈ e.event.arriving,
      (evt.ofClient = true → (p.player e.button1).asked = true) ∧
        (evt.ofServer = true → (p.player !e.button1).asked = true)

instance (p : Players) (e : PlayersEvent) : Decidable (e.Played p) :=
  inferInstanceAs (Decidable (_ ∧ ∀ _ ∈ _, _))

structure Players.Apart (p : Players) : Prop where
  advertiser : p.advertiser.app.Coherent true
  searcher : p.searcher.app.Coherent false
  asked : p.advertiser.asked = false
  noClient : p.advertiser.app.NoClient
  noServer : p.searcher.app.NoServer

def InPlay (out : Bool × DeviceCall) : Prop :=
  if out.1 then out.2.ofClient = false else out.2.ofServer = false

theorem apart_boot (valueHandles : Bool → List UInt16) : (playersBoot valueHandles).Apart where
  advertiser := coherent_boot true _
  searcher := coherent_boot false _
  asked := rfl
  noClient := ⟨rfl, nofun⟩
  noServer := ⟨rfl, nofun⟩

section
variable {p p' : Players} {e : PlayersEvent} {outs : List (Bool × DeviceCall)}

theorem Players.Apart.step (h : p.Apart) (hplayed : e.Played p)
    (hstep : playersStep t p e = some (p', outs)) : p'.Apart ∧ ∀ out ∈ outs, InPlay out := by
  obtain ⟨button1, event⟩ := e
  obtain ⟨hreal, hpeer⟩ := hplayed
  obtain ⟨⟨player, calls⟩, hplayer, hret⟩ := Option.bind_eq_some_iff.mp hstep
  obtain ⟨⟨app, deviceCalls⟩, happ, hret'⟩ := Option.bind_eq_some_iff.mp hplayer
  cases hret'
  cases hret
  cases button1 with
  | true =>
    obtain ⟨hclient, hcalls⟩ := h.noClient.step h.advertiser hreal
      (fun evt harrives => Bool.eq_false_iff.mpr fun hof =>
        Bool.eq_false_iff.mp h.asked ((hpeer evt harrives).1 hof)) happ
    refine ⟨?_, List.forall_mem_map.mpr hcalls⟩
    exact
      { advertiser := (h.advertiser.step hreal happ).coherent
        searcher := h.searcher
        asked := Bool.or_eq_false_iff.mpr ⟨h.asked, List.any_eq_false.mpr fun call hcall =>
          Bool.eq_false_iff.mp (hcalls call hcall)⟩
        noClient := hclient
        noServer := h.noServer }
  | false =>
    obtain ⟨hserver, hcalls⟩ := h.noServer.step h.searcher hreal
      (fun evt harrives => Bool.eq_false_iff.mpr fun hof =>
        Bool.eq_false_iff.mp h.asked ((hpeer evt harrives).2 hof)) happ
    refine ⟨?_, List.forall_mem_map.mpr hcalls⟩
    exact
      { advertiser := h.advertiser
        searcher := (h.searcher.step hreal happ).coherent
        asked := h.asked
        noClient := h.noClient
        noServer := hserver }

end

/-- For every interleaving of two players that are each other's peers, however
often they meet and lose each other: the one that started with BUTTON_1 pushed
is never a client and never does what clients do, the other one never a server. -/
theorem players_keep_roles (t : AppTimer) (valueHandles : Bool → List UInt16)
    (events : List PlayersEvent)
    (hplayed : Runs.Guarded (playersStep t) (fun p e => e.Played p) (playersBoot valueHandles)
      events)
    (hrun : Runs.run (playersStep t) (playersBoot valueHandles) events = some (p, outs)) :
    p.advertiser.app.device.isServiceClient = false ∧
      p.searcher.app.device.isServiceServer = false ∧ ∀ out ∈ outs, InPlay out := by
  obtain ⟨hapart, houts⟩ := hplayed.invariant
    (P := fun p outs => Players.Apart p ∧ ∀ out ∈ outs, InPlay out)
    (fun p past e p' outs h hplayed hstep => by
      obtain ⟨hapart, houts⟩ := h.1.step hplayed hstep
      exact ⟨hapart, List.forall_mem_append.mpr ⟨h.2, houts⟩⟩) []
    ⟨apart_boot valueHandles, nofun⟩ hrun
  exact ⟨hapart.noClient.role, hapart.noServer.role, houts⟩

def metPlayers : List PlayersEvent :=
  [⟨true, .main (.advertiseTasks true)⟩, ⟨false, .main (.discoveryTasks false nrfSuccess)⟩,
    ⟨true, .main (.advertiseTasks true)⟩, ⟨false, .main (.discoveryTasks false nrfSuccess)⟩,
    ⟨false, .air (.report matchingReport)⟩, ⟨false, .deliver 0⟩,
    ⟨false, .air (.linkCentral 5)⟩, ⟨true, .air (.linkPeripheral 3)⟩,
    ⟨false, .deliver 0⟩, ⟨true, .deliver 0⟩,
    ⟨false, .gatt (.gattcPrimSrvcDiscRsp .success [0x10])⟩, ⟨false, .deliver 0⟩,
    ⟨false, .gatt (.gattcPrimSrvcDiscRsp .attributeNotFound [])⟩, ⟨false, .deliver 0⟩,
    ⟨true, .gatt (.gattsAuthorizeRead serviceInfoUuid 0)⟩, ⟨true, .deliver 0⟩,
    ⟨false, .gatt (.gattcReadRsp 0x12 0 attributesAt16.info.bytes)⟩, ⟨false, .deliver 0⟩,
    ⟨true, .own (.setMyScore 2)⟩, ⟨false, .own (.setMyScore 3)⟩]

theorem players_keep_roles_metPlayers : ∃ p outs,
    Runs.run (playersStep appTimerSdk) (playersBoot fun _ => []) metPlayers = some (p, outs) ∧
      p.advertiser.app.device.isServiceServer = true ∧
      p.advertiser.app.device.isServiceClient = false ∧
      p.searcher.app.device.isServiceServer = false ∧
      p.searcher.app.device.isServiceClient = true := by
  have hrun : (Runs.run (playersStep appTimerSdk) (playersBoot fun _ => []) metPlayers).isSome := by
    decide +kernel
  obtain ⟨⟨p, outs⟩, h⟩ := Option.isSome_iff_exists.mp hrun
  have hend : ∀ final ∈ Runs.run (playersStep appTimerSdk) (playersBoot fun _ => []) metPlayers,
      final.1.advertiser.app.device.isServiceServer = true ∧
        final.1.searcher.app.device.isServiceClient = true := by decide +kernel
  obtain ⟨hserver, hclient⟩ := hend (p, outs) h
  obtain ⟨hnoClient, hnoServer, -⟩ :=
    players_keep_roles appTimerSdk (fun _ => []) metPlayers (by decide +kernel) h
  exact ⟨p, outs, h, hserver, hnoClient, hnoServer, hclient⟩

end WaterBall
