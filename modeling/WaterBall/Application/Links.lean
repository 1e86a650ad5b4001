import WaterBall.Support.Sessions
import WaterBall.Application.Dispatch

/-!
# The service and its link

The service knows its link by a handle that the radio's events bring. It uses
no other handle, and none when there is no link.
-/

namespace WaterBall

open Support

-- ---------------------------------------------------------------------------
-- The radio's part
-- ---------------------------------------------------------------------------

structure Aside (r r' : Radio) : Prop where
  connected : r'.isConnected = r.isConnected
  connHandle : r'.connHandle = r.connHandle
  events : r'.gap.events = r.gap.events

section
variable {r r' r'' : Radio}

theorem Aside.refl (r : Radio) : Aside r r := ⟨rfl, rfl, rfl⟩

theorem Aside.trans (h : Aside r r') (h' : Aside r' r'') : Aside r r'' where
  connected := h'.connected.trans h.connected
  connHandle := h'.connHandle.trans h.connHandle
  events := h'.events.trans h.events

theorem advertiseCancel_aside (r : Radio) : Aside r (advertiseCancel r) where
  connected := congrArg Flags.connected (advertiseCancel_flags r)
  connHandle := by
    unfold advertiseCancel
    split <;> rfl
  events := by rw [advertiseCancel_gap]

theorem discoveryCancel_aside (r : Radio) : Aside r (discoveryCancel r) where
  connected := congrArg Flags.connected (discoveryCancel_flags r)
  connHandle := by
    unfold discoveryCancel
    split <;> rfl
  events := by rw [discoveryCancel_gap]

theorem connectCancel_aside (h : connectCancel r = .ok r') : Aside r r' := by
  rw [connectCancel_eq] at h
  split at h
  · split at h
    · cases h
      exact ⟨congrArg Flags.connected (flags_statusClear r .connecting), rfl, rfl⟩
    · cases h
  · cases h
    exact .refl r

theorem connectConnect_aside {address : GapAddr} {result : Bool}
    (h : connectConnect r address = .ok (result, r')) : Aside r r' := by
  rw [connectConnect_eq] at h
  split at h
  · cases h
    exact .refl r
  cases hcancel : connectCancel (discoveryCancel (advertiseCancel r)) with
  | error call =>
    rw [hcancel] at h
    cases h
  | ok r₁ =>
    have hcanceled : Aside r r₁ :=
      (advertiseCancel_aside r).trans <|
        (discoveryCancel_aside _).trans (connectCancel_aside hcancel)
    rw [hcancel] at h
    simp only [bind, Except.bind] at h
    split at h
    · cases h
    · cases h
      exact hcanceled.trans ⟨congrArg Flags.connected (flags_statusSet _ .connecting), rfl, rfl⟩

theorem sdBleGapScanStart_events (g : Gap) (refusal : UInt32) :
    (sdBleGapScanStart g refusal).1.events = g.events := by
  unfold sdBleGapScanStart
  split
  · rfl
  split <;> rfl

theorem discoveryDiscovery_aside (r : Radio) (refusal : UInt32) :
    Aside r (discoveryDiscovery r refusal).2 := by
  rw [discoveryDiscovery_eq]
  split
  · exact .refl r
  · exact ⟨congrArg Flags.connected (flags_statusSet _ .discovering), rfl,
      sdBleGapScanStart_events r.gap refusal⟩

theorem advertiseTasks_aside {button1 : Bool} (h : advertiseTasks r button1 = .ok r') :
    Aside r r' := by
  by_cases hstart : r.advertiseState = .advertising ∧ r.isIdle = true
  · rw [advertiseTasks_idle hstart.1 hstart.2] at h
    split at h
    · cases h
    · cases h
      exact ⟨congrArg Flags.connected (flags_statusSet _ .advertising), rfl, rfl⟩
  · unfold advertiseTasks at h
    split at h
    case h_3 hstate =>
      rw [if_neg fun hidle => hstart ⟨hstate, hidle⟩] at h
      cases h
      exact .refl r
    all_goals
      cases h
      exact ⟨rfl, rfl, rfl⟩

theorem discoveryTasks_aside (r : Radio) (button1 : Bool) (refusal : UInt32) :
    Aside r (discoveryTasks r button1 refusal) := by
  unfold discoveryTasks
  split
  case h_3 =>
    split
    · exact discoveryDiscovery_aside r refusal
    · exact .refl r
  all_goals exact ⟨rfl, rfl, rfl⟩

theorem storagePause_aside (h : storagePause r = .ok r') : Aside r r' := by
  rw [storagePause_eq] at h
  cases hcancel : connectCancel r with
  | error call =>
    rw [hcancel] at h
    cases h
  | ok r₁ =>
    rw [hcancel] at h
    cases h
    obtain ⟨hconnected, hhandle, hevents⟩ := discoveryCancel_aside r₁
    exact (connectCancel_aside hcancel).trans ⟨hconnected, hhandle, hevents⟩

theorem storageResume_aside (r : Radio) (wasDiscovering : Bool) (refusal : UInt32) :
    Aside r (storageResume r wasDiscovering refusal) := by
  obtain ⟨hconnected, hhandle, hevents⟩ := discoveryDiscovery_aside r refusal
  cases wasDiscovering with
  | false => exact ⟨rfl, rfl, rfl⟩
  | true => exact ⟨hconnected, hhandle, hevents⟩

theorem radioTask_aside {task : RadioTask} (h : radioTask r task = .ok r') : Aside r r' := by
  cases task with
  | advertiseTasks button1 => exact advertiseTasks_aside h
  | discoveryTasks button1 refusal =>
    cases h
    exact discoveryTasks_aside r button1 refusal
  | connectTasks =>
    cases h
    unfold connectTasks
    split <;> exact ⟨rfl, rfl, rfl⟩
  | connectConnect address =>
    rw [radioTask] at h
    cases hconnect : connectConnect r address with
    | error call =>
      rw [hconnect] at h
      cases h
    | ok result =>
      rw [hconnect] at h
      cases h
      exact connectConnect_aside hconnect
  | advertiseCancel =>
    cases h
    exact advertiseCancel_aside r
  | discoveryCancel =>
    cases h
    exact discoveryCancel_aside r
  | connectCancel => exact connectCancel_aside h
  | storagePause => exact storagePause_aside h

theorem radioStep_main_aside {task : RadioTask} {calls : List RadioCall}
    (h : radioStep r (.main task) = .ok (r', calls)) : Aside r r' := by
  rw [radioStep] at h
  split at h
  · cases h
    exact .refl r
  cases htask : radioTask r task with
  | error call =>
    rw [htask] at h
    cases h
  | ok r₁ =>
    rw [htask] at h
    cases h
    exact radioTask_aside htask

theorem radioStep_resume_aside {refusal : UInt32} {calls : List RadioCall}
    (h : radioStep r (.storageResume refusal) = .ok (r', calls)) : Aside r r' := by
  rw [radioStep] at h
  split at h
  · cases h
    exact storageResume_aside r _ refusal
  · cases h
    exact .refl r

inductive Dispatched (r r' : Radio) : GapEvt → List RadioCall → Prop
  | connected (role : GapRole) (hflag : r'.isConnected = true)
      (hevents : r'.gap.events = r.gap.events) :
      Dispatched r r' (.connected role r'.connHandle)
        (if role = .central then [.serviceTryConnect] else [])
  | disconnected (hflag : r'.isConnected = false)
      (hhandle : r'.connHandle = bleConnHandleInvalid) (hevents : r'.gap.events = r.gap.events) :
      Dispatched r r' .disconnected []
  | other (evt : GapEvt) (hlink : evt.link = none) (haside : Aside r r') : Dispatched r r' evt []

theorem bleEvtDispatch_dispatched {evt : GapEvt} {calls : List RadioCall}
    (h : bleEvtDispatch r evt = .ok (r', calls)) : Dispatched r r' evt calls := by
  cases evt with
  | connected role connHandle =>
    rw [bleEvtDispatch_connected] at h
    cases h
    obtain ⟨hconnected, hhandle, hevents⟩ :=
      advertiseCancel_aside (connectOnBleEvt r (.connected role connHandle)).1
    have hcalls : (connectOnBleEvt r (.connected role connHandle)).2 =
        if role = .central then [.serviceTryConnect] else [] :=
      if_congr beq_iff_eq rfl rfl
    have hflag := congrArg Flags.connected (connectOnBleEvt_connected r role connHandle)
    have hsame : (advertiseCancel (connectOnBleEvt r (.connected role connHandle)).1).connHandle =
        connHandle := hhandle
    have hconn := Dispatched.connected (r := r) role (hconnected.trans hflag) hevents
    rw [hsame] at hconn
    rwa [hcalls]
  | disconnected =>
    cases h
    exact .disconnected (congrArg Flags.connected (flags_statusClear r .connected)) rfl rfl
  | timeout src =>
    cases src <;> cases h
    · exact .other _ rfl ⟨congrArg Flags.connected (flags_statusClear r .advertising), rfl, rfl⟩
    · exact .other _ rfl (.refl r)
    · exact .other _ rfl ⟨congrArg Flags.connected (flags_statusClear r .discovering), rfl, rfl⟩
    · exact .other _ rfl ⟨congrArg Flags.connected (flags_statusClear r .connecting), rfl, rfl⟩
  | advReport report =>
    rw [bleEvtDispatch_advReport] at h
    split at h
    · cases hconnect : connectConnect r report.peerAddr with
      | error call =>
        rw [hconnect] at h
        cases h
      | ok result =>
        rw [hconnect] at h
        cases h
        exact .other _ rfl (connectConnect_aside hconnect)
    · cases h
      exact .other _ rfl (.refl r)

end

-- ---------------------------------------------------------------------------
-- The device's part
-- ---------------------------------------------------------------------------

/-- The handle of the link that a call is about. -/
def ServerCall.connHandle : ServerCall → Option UInt16
  | gattsCharacteristicAdd .. => none
  | gattsHvx connHandle .. => some connHandle
  | gattsReplyRead connHandle _ => some connHandle
  | gattsReplyWrite connHandle .. => some connHandle
  | gattsSysAttrSet connHandle => some connHandle
  | gapDisconnect connHandle => some connHandle

def ClientCall.connHandle : ClientCall → Option UInt16
  | gattcPrimaryServicesDiscover connHandle _ => some connHandle
  | gattcRead connHandle .. => some connHandle
  | gattcWrite connHandle .. => some connHandle
  | gattcHvConfirm connHandle _ => some connHandle
  | gapDisconnect connHandle => some connHandle
  | gameSetState _ => none

def DeviceCall.connHandle : DeviceCall → Option UInt16
  | server call => call.connHandle
  | client call => call.connHandle
  | _ => none

/-- The search for the service that a call starts. -/
def DeviceCall.search : DeviceCall → Option UInt16
  | client (.gattcPrimaryServicesDiscover connHandle startHandle) =>
    if startHandle = serviceClientStartHandle then some connHandle else none
  | _ => none

/-- What a device sends on its own: over the link of its service, and in a role. -/
inductive Sends (s : ServiceServer) (c : ServiceClient) : DeviceCall → Prop
  | indication (hserver : serviceServerIsConnected s = true) (handle : UInt16)
      (type : HvxType) (data : List UInt8) :
      Sends s c (.server (.gattsHvx s.connHandle handle type data))
  | write (hclient : serviceClientIsConnected c = true) (op : WriteOp) (handle : UInt16)
      (value : List UInt8) : Sends s c (.client (.gattcWrite c.connHandle op handle value))
  | display (call : DeviceCall) (hdisplay : call.isDisplay = true) : Sends s c call

theorem gameSetMyScore_sends (d : Device) (score : UInt32) :
    ∀ call ∈ (gameSetMyScore d score).2, Sends d.server d.client call := by
  intro call hcall
  cases hserver : d.isServiceServer with
  | true =>
    rw [gameSetMyScore_asServer hserver] at hcall
    rw [mem_hvxSend hcall]
    exact .indication hserver ..
  | false =>
    cases hclient : d.isServiceClient with
    | true =>
      rw [gameSetMyScore_asClient hserver hclient] at hcall
      rw [List.mem_singleton.mp hcall]
      exact .write hclient ..
    | false =>
      rw [gameSetMyScore_alone hserver hclient] at hcall
      cases hcall

theorem gameIndicateState_sends (d : Device) (state : GameState) :
    ∀ call ∈ gameIndicateState d state, Sends d.server d.client call := by
  intro call hcall
  unfold gameIndicateState at hcall
  split at hcall
  case isTrue hserver =>
    rw [mem_hvxSend hcall]
    exact .indication hserver ..
  case isFalse => cases hcall

/-- An own step, but for a search for the service. -/
structure OwnSends (d d' : Device) (calls : List DeviceCall) : Prop where
  connHandle : d'.client.connHandle = d.client.connHandle
  calls : ∀ call ∈ calls, Sends d.server d.client call

theorem gameEventHandler_sends (d : Device) (pin : Button) (action : ButtonAction) :
    OwnSends d (gameEventHandler d pin action).1 (gameEventHandler d pin action).2 := by
  rcases gameEventHandler_cases d pin action with ⟨state, -, h⟩ | ⟨-, score, h⟩
  · rw [h]
    exact ⟨rfl, nofun⟩
  · rw [h]
    exact ⟨by rw [gameSetMyScore_client], gameSetMyScore_sends d score⟩

theorem GameTurn.sends (h : GameTurn d d' calls) : OwnSends d d' calls := by
  have hdisplays (calls : List DeviceCall) (h : ∀ call ∈ calls, call.isDisplay = true) :
      ∀ call ∈ calls, Sends d.server d.client call := fun call hcall => .display call (h call hcall)
  cases h with
  | stop =>
    exact ⟨rfl, List.forall_mem_append.mpr
      ⟨gameIndicateState_sends d .init, hdisplays _ (by decide)⟩⟩
  | begin ticks hstate hset =>
    have hclient := gameSetMyScore_client
      { d with game.theirScore := d.theirView, game.gameInitTicks := ticks } 0
    have hscore := gameSetMyScore_sends
      { d with game.theirScore := d.theirView, game.gameInitTicks := ticks } 0
    rw [hset] at hclient hscore
    exact ⟨congrArg ServiceClient.connHandle hclient, List.forall_mem_append.mpr
      ⟨gameIndicateState_sends d .initializingGame, hscore⟩⟩
  | countDown ms => exact ⟨rfl, hdisplays _ (gamePrintStart_isDisplay ms)⟩
  | score =>
    refine ⟨rfl, hdisplays _ ?_⟩
    exact List.forall_mem_cons.mpr ⟨rfl, List.forall_mem_cons.mpr ⟨rfl,
      List.forall_mem_cons.mpr ⟨rfl, List.forall_mem_cons.mpr ⟨rfl, nofun⟩⟩⟩⟩
  | verdict =>
    refine ⟨rfl, hdisplays _ ?_⟩
    exact List.forall_mem_cons.mpr ⟨rfl, List.forall_mem_cons.mpr ⟨rfl, nofun⟩⟩
  | play | dry | wait => exact ⟨rfl, nofun⟩

theorem serviceClientTasks_connHandle (c : ServiceClient) :
    (serviceClientTasks c).connHandle = c.connHandle := by
  unfold serviceClientTasks
  split <;> rfl

theorem deviceStep_sends (hown : event.isOwn = true) (hsearch : event ≠ .tryConnect)
    (h : deviceStep t d event = some (d', calls)) : OwnSends d d' calls := by
  cases event with
  | button pin action => exact Runs.of_result h (gameEventHandler_sends d pin action)
  | gameTasks now => exact Runs.of_result h (gameTasks_turn t d now).sends
  | serviceTasks =>
    exact Runs.of_result h (P := fun d' calls => OwnSends d d' calls)
      ⟨serviceClientTasks_connHandle d.client, nofun⟩
  | setMyScore score =>
    exact Runs.of_result h (P := fun d' calls => OwnSends d d' calls)
      ⟨by rw [gameSetMyScore_client], gameSetMyScore_sends d score⟩
  | incrementMyScore points =>
    exact Runs.of_result h (P := fun d' calls => OwnSends d d' calls)
      ⟨by rw [gameIncrementMyScore_eq, gameSetMyScore_client], gameSetMyScore_sends d _⟩
  | tryConnect => exact absurd rfl hsearch
  | ble => cases hown

theorem eq_of_mem_some {connHandle : UInt16} : ∀ h ∈ some connHandle, h = connHandle :=
  fun _ hmem => (Option.mem_some_iff.mp hmem).symm

def ClientCall.Follows (connHandle : UInt16) (call : ClientCall) : Prop :=
  (∀ h ∈ call.connHandle, h = connHandle) ∧ (DeviceCall.client call).search = none

theorem serviceClientOnPrimSrvcDiscRsp_link (c : ServiceClient) (status : GattStatus)
    (hhandles : 0 ∉ startHandles) :
    (serviceClientOnPrimSrvcDiscRsp c status startHandles).1.connHandle = c.connHandle ∧
      ∀ call ∈ (serviceClientOnPrimSrvcDiscRsp c status startHandles).2,
        call.Follows c.connHandle := by
  unfold serviceClientOnPrimSrvcDiscRsp
  cases status with
  | success =>
    dsimp only
    split
    case h_1 => exact ⟨rfl, nofun⟩
    case h_2 startHandle hlast =>
      have hne : startHandle + 1 ≠ serviceClientStartHandle := by
        intro heq
        have hzero : startHandle = 0 := (UInt16.add_left_inj 1).mp heq
        exact hhandles (hzero ▸ List.mem_of_getLast? hlast)
      exact ⟨rfl, List.forall_mem_singleton.mpr ⟨eq_of_mem_some, if_neg hne⟩⟩
  | attributeNotFound =>
    dsimp only
    split
    · exact ⟨rfl, List.forall_mem_singleton.mpr ⟨eq_of_mem_some, rfl⟩⟩
    · exact ⟨rfl, nofun⟩
  | other => exact ⟨rfl, nofun⟩

theorem confirmCalls_link (c : ServiceClient) (handle : UInt16) (type : HvxType) :
    ∀ call ∈ confirmCalls c handle type, call.Follows c.connHandle := by
  unfold confirmCalls
  split
  · exact List.forall_mem_singleton.mpr ⟨eq_of_mem_some, rfl⟩
  · exact nofun

theorem configureCalls_link (c : ServiceClient) :
    ∀ call ∈ configureCalls c, call.Follows c.connHandle := by
  intro call hcall
  simp only [configureCalls, List.mem_cons, List.not_mem_nil, or_false] at hcall
  rcases hcall with rfl | rfl | rfl | rfl <;> exact ⟨eq_of_mem_some, rfl⟩

theorem serviceClientOnBleEvt_link (hevt : evt.OfAttributes)
    (h : serviceClientOnBleEvt uninit c evt = some (c', calls)) :
    c'.connHandle = c.connHandle ∧ ∀ call ∈ calls, call.Follows c.connHandle := by
  cases evt with
  | gapConnected | gapDisconnected => exact hevt.elim
  | gattcPrimSrvcDiscRsp status startHandles =>
    exact Runs.of_result h (P := fun c' calls => c'.connHandle = c.connHandle ∧
      ∀ call ∈ calls, call.Follows c.connHandle) (serviceClientOnPrimSrvcDiscRsp_link c status hevt)
  | gattcReadRsp handle offset data =>
    cases serviceClientOnReadRsp_ends h with
    | info => exact ⟨rfl, configureCalls_link _⟩
    | config _ _ _ _ next =>
      refine ⟨rfl, fun call hcall => ?_⟩
      obtain ⟨handle, -, rfl⟩ := List.mem_map.mp hcall
      exact ⟨eq_of_mem_some, rfl⟩
  | gattcHvx handle type data =>
    cases serviceClientOnHvx_ends h with
    | score | time | other => exact ⟨rfl, confirmCalls_link c handle type⟩
    | state =>
      exact ⟨rfl, List.forall_mem_cons.mpr ⟨⟨(nofun), rfl⟩, confirmCalls_link c handle type⟩⟩
  | gattcTimeout =>
    cases h
    exact ⟨rfl, List.forall_mem_singleton.mpr ⟨eq_of_mem_some, rfl⟩⟩
  | _ =>
    cases h
    exact ⟨rfl, nofun⟩

theorem serviceServerWriteWord_link {set : ServiceServer → UInt32 → ServiceServer}
    (hset : ∀ s v, (set s v).connHandle = s.connHandle)
    (h : serviceServerWriteWord set s data = some (s', calls)) :
    s'.connHandle = s.connHandle ∧
      ∀ call ∈ calls, ∀ connHandle ∈ call.connHandle, connHandle = s.connHandle := by
  obtain ⟨bytes, -, h⟩ := Option.bind_eq_some_iff.mp h
  cases h
  refine ⟨hset .., List.forall_mem_singleton.mpr fun connHandle hh => ?_⟩
  exact (Option.some.inj hh).symm.trans (hset ..)

theorem serviceServerOnBleEvt_link (hevt : evt.OfAttributes)
    (h : serviceServerOnBleEvt s evt = some (s', calls)) :
    s'.connHandle = s.connHandle ∧
      ∀ call ∈ calls, ∀ connHandle ∈ call.connHandle, connHandle = s.connHandle := by
  cases evt with
  | gapConnected | gapDisconnected => exact hevt.elim
  | gattsAuthorizeRead uuid offset =>
    obtain ⟨state, replies, hread, -, hcalls⟩ := serviceServerAuthorizeRead_ends s uuid offset
    rw [serviceServerOnBleEvt_read, hread] at h
    cases h
    refine ⟨rfl, fun call hcall => ?_⟩
    obtain ⟨reply, rfl, -⟩ := hcalls call hcall
    exact eq_of_mem_some
  | gattsAuthorizeWrite uuid data beyond =>
    rw [serviceServerOnBleEvt_write, serviceServerAuthorizeWrite] at h
    split at h
    case h_1 callback hcallback =>
      obtain ⟨r, rfl⟩ := writeCallback_eq_some hcallback
      rw [writeCallback_register] at hcallback
      cases hcallback
      exact serviceServerWriteWord_link (fun s v => by cases r <;> rfl) h
    case h_2 =>
      cases h
      exact ⟨rfl, List.forall_mem_nil _⟩
  | gattsSysAttrMissing | gattsTimeout =>
    cases h
    exact ⟨rfl, List.forall_mem_singleton.mpr eq_of_mem_some⟩
  | _ =>
    cases h
    exact ⟨rfl, List.forall_mem_nil _⟩

end WaterBall
