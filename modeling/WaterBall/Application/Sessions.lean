import WaterBall.Support.Sessions
import WaterBall.Application.Links

/-!
# One session after another

From the boot on, in whatever order events arrive and functions run, the
service is told of its links one after another and uses the one that it has
been told of last, as long as that is not lost.
-/

namespace WaterBall

open Support

-- ---------------------------------------------------------------------------
-- What waits
-- ---------------------------------------------------------------------------

def GapEvt.connHandle : GapEvt → Option UInt16
  | connected _ connHandle => some connHandle
  | _ => none

def StackEvt.link (evt : StackEvt) : Option Bool := evt.gapEvt.bind GapEvt.link

/-- The attribute protocol has its events between the two ends of a link. -/
def Waits (linked : Bool) : List StackEvt → Prop
  | [] => True
  | .gap evt :: rest =>
    bleConnHandleInvalid ∉ evt.connHandle ∧ Waits (evt.link.getD linked) rest
  | .gatt evt :: rest => linked = true ∧ evt.OfAttributes ∧ Waits linked rest

theorem Waits.concat (h : Waits linked waiting)
    (hevt : Waits (Mirror.latest linked (waiting.filterMap StackEvt.link)) [evt]) :
    Waits linked (waiting ++ [evt]) := by
  induction waiting generalizing linked with
  | nil => exact hevt
  | cons first rest ih =>
    rw [Mirror.latest_filterMap_cons] at hevt
    cases first with
    | gap first => exact ⟨h.1, ih h.2 hevt⟩
    | gatt first => exact ⟨h.1, h.2.1, ih h.2.2 hevt⟩

-- ---------------------------------------------------------------------------
-- The radio in its role
-- ---------------------------------------------------------------------------

/-- A device that advertises or one that looks for one, as BUTTON_1 was at the start. -/
def Radio.InRole (button1 : Bool) (r : Radio) : Prop :=
  if button1 then r.Peripheral else r.Central

section
variable {r r' : Radio} {button1 : Bool}

theorem inRole_boot (button1 : Bool) : radioBoot.InRole button1 := by
  cases button1 with
  | true => exact peripheral_boot
  | false => exact central_boot

theorem Radio.InRole.step (h : r.InRole button1) {event : RadioEvent} {calls : List RadioCall}
    (hloop : event.InLoop button1 r) (hok : radioStep r event = .ok (r', calls)) :
    r'.InRole button1 := by
  cases button1 with
  | true => exact (Radio.Peripheral.step h hloop hok).1
  | false => exact Radio.Central.step h hloop hok

/-- The links are on their way one after another, whatever the role. -/
theorem Radio.InRole.links (h : r.InRole button1) :
    Mirror.Switches r.isConnected r.gap.links r.gap.linked := by
  cases button1 with
  | true =>
    have hradio := Radio.Peripheral.radio h
    rw [Gap.linked, hradio.central]
    exact hradio.links
  | false =>
    have hradio := Radio.Central.radio h
    rw [Gap.linked, hradio.peripheral, Bool.or_false]
    exact hradio.links

theorem Radio.InRole.connected (h : r.InRole button1) {role : GapRole} {connHandle : UInt16}
    {rest : List GapEvt} (hevents : r.gap.events = .connected role connHandle :: rest) :
    role = .central ↔ button1 = false := by
  have hmem : .connected role connHandle ∈ r.gap.events := hevents ▸ List.mem_cons_self
  cases button1 with
  | true =>
    have hrole : role = .periph := beq_iff_eq.mp ((Radio.Peripheral.radio h).events _ hmem)
    rw [hrole]
    decide
  | false =>
    have hrole : role = .central := beq_iff_eq.mp ((Radio.Central.radio h).events _ hmem)
    exact ⟨fun _ => rfl, fun _ => hrole⟩

end

-- ---------------------------------------------------------------------------
-- The application
-- ---------------------------------------------------------------------------

def Application.link (s : Application) : Option UInt16 :=
  if s.radio.isConnected then some s.radio.connHandle else none

theorem Application.isSome_link (s : Application) : s.link.isSome = s.radio.isConnected := by
  unfold Application.link
  cases s.radio.isConnected <;> rfl

/-- The service knows the link of the radio, and has a role on a link only. -/
structure Application.Coherent (button1 : Bool) (s : Application) : Prop where
  radio : s.radio.InRole button1
  events : s.radio.gap.events = s.waiting.filterMap StackEvt.gapEvt
  waiting : Waits s.radio.isConnected s.waiting
  client : s.device.client.connHandle = s.radio.connHandle
  server : s.device.server.connHandle = s.radio.connHandle
  asServer : s.device.isServiceServer = true → s.radio.isConnected = true
  asClient : s.device.isServiceClient = true → s.radio.isConnected = true

def StackEvt.items : StackEvt → List (Sessions.Item UInt16)
  | gap (.connected _ connHandle) => [.opened connHandle]
  | gap .disconnected => [.closed]
  | _ => []

def ApplicationEvent.items (s : Application) : ApplicationEvent → List (Sessions.Item UInt16)
  | deliver _ => s.waiting.head?.elim [] StackEvt.items
  | _ => []

def opened : Sessions.Item UInt16 → Option UInt16
  | .opened connHandle => some connHandle
  | _ => none

/-- What a step opens, closes and uses, and the searches that it starts. -/
structure LinkStep (button1 : Bool) (s s' : Application) (items : List (Sessions.Item UInt16))
    (calls : List DeviceCall) : Prop where
  coherent : s'.Coherent button1
  log : Sessions.after s.link (items ++ (calls.filterMap DeviceCall.connHandle).map .used) =
    some s'.link
  searches : calls.filterMap DeviceCall.search =
    if button1 then [] else items.filterMap opened

theorem serviceServerInit_connHandle (s : ServiceServer) (valueHandles : List UInt16) :
    (serviceServerInit s valueHandles).1.connHandle = bleConnHandleInvalid := by
  have hadd : ∀ (rows : List (ServiceServerCharacteristic × UInt16))
      (x : ServiceServer × List ServerCall),
      (rows.foldl (fun x row =>
        ((serviceServerCharacteristicAdd x.1 row.1 row.2).1,
          x.2 ++ (serviceServerCharacteristicAdd x.1 row.1 row.2).2)) x).1.connHandle =
        x.1.connHandle := by
    intro rows x
    induction rows generalizing x with
    | nil => rfl
    | cons row rows ih => exact ih _
  exact hadd _ _

theorem coherent_boot (button1 : Bool) (valueHandles : List UInt16) :
    (applicationBoot valueHandles).Coherent button1 where
  radio := inRole_boot button1
  events := rfl
  waiting := trivial
  client := rfl
  server := serviceServerInit_connHandle serviceServerReset valueHandles
  asServer := nofun
  asClient := nofun

section
variable {s s' : Application} {button1 : Bool} {calls : List DeviceCall}

theorem Application.Coherent.latest (h : s.Coherent button1) :
    Mirror.latest s.radio.isConnected (s.waiting.filterMap StackEvt.link) =
      s.radio.gap.linked := by
  have hlinks := h.radio.links
  rw [Gap.links, h.events, List.filterMap_filterMap] at hlinks
  exact hlinks.latest

theorem LinkStep.of_calls (hcoherent : s'.Coherent button1) (hlink : s'.link = s.link)
    (hcalls : ∀ call ∈ calls, (∀ h ∈ call.connHandle, s.link = some h) ∧ call.search = none) :
    LinkStep button1 s s' [] calls where
  coherent := hcoherent
  log := by
    rw [hlink, List.nil_append]
    refine Sessions.after_used_of_open fun h hh => ?_
    obtain ⟨call, hcall, hhandle⟩ := List.mem_filterMap.mp hh
    exact (hcalls call hcall).1 h hhandle
  searches := by
    rw [List.filterMap_eq_nil_iff.mpr fun call hcall => (hcalls call hcall).2]
    cases button1 <;> rfl

theorem Application.Coherent.main (h : s.Coherent button1) {event : RadioEvent} {radio : Radio}
    {radioCalls : List RadioCall} (hloop : event.InLoop button1 s.radio)
    (hok : radioStep s.radio event = .ok (radio, radioCalls)) (haside : Aside s.radio radio) :
    LinkStep button1 s { s with radio } [] [] := by
  obtain ⟨hconnected, hhandle, hevents⟩ := haside
  refine .of_calls ?_ ?_ nofun
  · exact
      { radio := h.radio.step hloop hok
        events := hevents.trans h.events
        waiting := hconnected ▸ h.waiting
        client := h.client.trans hhandle.symm
        server := h.server.trans hhandle.symm
        asServer := fun hrole => hconnected.trans (h.asServer hrole)
        asClient := fun hrole => hconnected.trans (h.asClient hrole) }
  · unfold Application.link
    dsimp only
    rw [hconnected, hhandle]

theorem Application.link_of_connected (hconnected : s.radio.isConnected = true) :
    s.link = some s.radio.connHandle := if_pos hconnected

theorem Application.link_of_disconnected (hconnected : s.radio.isConnected = false) :
    s.link = none := if_neg (Bool.eq_false_iff.mp hconnected)

theorem Application.Coherent.own (h : s.Coherent button1) {event : DeviceEvent} {device : Device}
    (hown : event.isOwn = true) (hsearch : event ≠ .tryConnect)
    (hstep : deviceStep t s.device event = some (device, calls)) :
    LinkStep button1 s { s with device } [] calls := by
  have hkept := deviceStep_own hown hstep
  have hsends := deviceStep_sends hown hsearch hstep
  refine .of_calls ?_ rfl fun call hcall => ?_
  · exact
      { h with
        client := hsends.connHandle.trans h.client
        server := hkept.serverConn.trans h.server
        asServer := fun hrole => h.asServer (hkept.isServiceServer.symm.trans hrole)
        asClient := fun hrole => h.asClient (hkept.isServiceClient hrole) }
  · cases hsends.calls call hcall with
    | indication hserver =>
      refine ⟨fun connHandle hh => ?_, rfl⟩
      rw [Application.link_of_connected (h.asServer hserver), ← h.server]
      exact hh
    | write hclient =>
      refine ⟨fun connHandle hh => ?_, rfl⟩
      rw [Application.link_of_connected (h.asClient hclient), ← h.client]
      exact hh
    | display call hdisplay =>
      cases call with
      | server | client => cases hdisplay
      | _ => exact ⟨nofun, rfl⟩

theorem gapStep_arrived (g : Gap) (change : GapChange) :
    (gapStep g change).events = g.events ∨
      ∃ evt : GapEvt, (gapStep g change).events = g.events ++ [evt] ∧
        (evt.connHandle = none ∨ evt.connHandle = change.connHandle) := by
  cases change with
  | timeout src =>
    cases src <;> unfold gapStep <;> dsimp only
    case securityRequest => exact .inr ⟨_, rfl, .inl rfl⟩
    all_goals
      split
      · exact .inr ⟨_, rfl, .inl rfl⟩
      · exact .inl rfl
  | _ =>
    unfold gapStep
    dsimp only
    split
    · exact .inr ⟨_, rfl, by first | exact .inl rfl | exact .inr rfl⟩
    · exact .inl rfl

theorem Application.Coherent.air (h : s.Coherent button1) {change : GapChange}
    (hvalid : bleConnHandleInvalid ∉ change.connHandle)
    (hstep : applicationStep t s (.air change) = some (s', calls)) :
    LinkStep button1 s s' [] calls := by
  have hradio : Radio.InRole button1 { s.radio with gap := gapStep s.radio.gap change } :=
    h.radio.step (show RadioEvent.InLoop button1 s.radio (.air change) from trivial) rfl
  cases hstep
  refine .of_calls ?_ rfl nofun
  rcases gapStep_arrived s.radio.gap change with hsame | ⟨evt, harrived, hhandle⟩
  · rw [hsame, List.drop_length, List.map_nil, List.append_nil]
    exact { h with radio := hradio, events := hsame.trans h.events }
  · have hnew : bleConnHandleInvalid ∉ evt.connHandle := by
      rcases hhandle with hnone | hchange
      · rw [hnone]
        exact nofun
      · rwa [hchange]
    rw [harrived, List.drop_left]
    exact
      { h with
        radio := hradio
        events := by
          rw [List.filterMap_append, ← h.events]
          exact harrived
        waiting := h.waiting.concat ⟨hnew, trivial⟩ }

theorem Application.Coherent.arrive (h : s.Coherent button1) {evt : BleEvt}
    (hevt : evt.OfAttributes) (hlinked : s.radio.gap.linked = true) :
    LinkStep button1 s { s with waiting := s.waiting ++ [.gatt evt] } [] [] := by
  refine .of_calls ?_ rfl nofun
  exact
    { h with
      events := by
        rw [List.filterMap_append]
        exact h.events.trans (List.append_nil _).symm
      waiting := h.waiting.concat ⟨h.latest.trans hlinked, hevt, trivial⟩ }

end

-- ---------------------------------------------------------------------------
-- Deliveries
-- ---------------------------------------------------------------------------

inductive Delivered (uninit : UInt32) (s : Application) : Application → List DeviceCall → Prop
  | nothing (hwaiting : s.waiting = []) : Delivered uninit s s []
  | service (evt : BleEvt) (rest : List StackEvt) (hwaiting : s.waiting = .gatt evt :: rest)
      (hservice : serviceOnBleEvt uninit s.device evt = some (device, calls)) :
      Delivered uninit s { s with device, waiting := rest } calls
  | link (evt : GapEvt) (rest : List StackEvt) (hwaiting : s.waiting = .gap evt :: rest)
      (hok : radioStep s.radio .deliver = .ok (radio, radioCalls))
      (hdispatched : Dispatched { s.radio with gap.events := rest.filterMap StackEvt.gapEvt } radio
        evt radioCalls)
      (hservice : serviceOnBleEvt uninit s.device (StackEvt.gap evt).service =
        some (device, serviceCalls)) :
      Delivered uninit s { radio, device := (serviceTake device radioCalls).1, waiting := rest }
        (serviceCalls ++ (serviceTake device radioCalls).2)

section
variable {s s' : Application} {button1 : Bool} {calls : List DeviceCall}

theorem serviceTake_central (d : Device) (hvalid : d.client.connHandle ≠ bleConnHandleInvalid) :
    serviceTake d [.serviceTryConnect] =
      ({ d with client.state := .connecting }, [.client
        (.gattcPrimaryServicesDiscover d.client.connHandle serviceClientStartHandle)]) := by
  rw [serviceTake, serviceTryConnect, serviceClientTryConnect, if_neg hvalid.symm]
  rfl

theorem Application.Coherent.service (h : s.Coherent button1) {evt : BleEvt}
    {rest : List StackEvt} {device : Device} (hwaiting : s.waiting = .gatt evt :: rest)
    (hstep : serviceOnBleEvt uninit s.device evt = some (device, calls)) :
    LinkStep button1 s { s with device, waiting := rest } [] calls := by
  have hwaits := h.waiting
  rw [hwaiting] at hwaits
  obtain ⟨hconnected, hevt, hrest⟩ := hwaits
  obtain ⟨client, clientCalls, server, serverCalls, hclient, hserver, rfl, rfl⟩ :=
    serviceOnBleEvt_ends hstep
  obtain ⟨hclientConn, hclientCalls⟩ := serviceClientOnBleEvt_link hevt hclient
  obtain ⟨hserverConn, hserverCalls⟩ := serviceServerOnBleEvt_link hevt hserver
  have hlink := Application.link_of_connected hconnected
  refine .of_calls ?_ rfl (List.forall_mem_append.mpr ⟨?_, ?_⟩)
  · exact
      { radio := h.radio
        events := by rw [h.events, hwaiting]; rfl
        waiting := hrest
        client := hclientConn.trans h.client
        server := hserverConn.trans h.server
        asServer := fun _ => hconnected
        asClient := fun _ => hconnected }
  · refine List.forall_mem_map.mpr fun call hcall => ⟨fun connHandle hh => ?_, ?_⟩
    · rw [hlink, (hclientCalls call hcall).1 connHandle hh, h.client]
    · exact (hclientCalls call hcall).2
  · refine List.forall_mem_map.mpr fun call hcall => ⟨fun connHandle hh => ?_, rfl⟩
    rw [hlink, hserverCalls call hcall connHandle hh, h.server]

theorem Application.Coherent.link (h : s.Coherent button1) {evt : GapEvt} {rest : List StackEvt}
    {radio : Radio} {radioCalls : List RadioCall} {device : Device}
    {serviceCalls : List DeviceCall} (hwaiting : s.waiting = .gap evt :: rest)
    (hok : radioStep s.radio .deliver = .ok (radio, radioCalls))
    (hdispatched : Dispatched { s.radio with gap.events := rest.filterMap StackEvt.gapEvt } radio
      evt radioCalls)
    (hservice : serviceOnBleEvt uninit s.device (StackEvt.gap evt).service =
      some (device, serviceCalls)) :
    LinkStep button1 s { radio, device := (serviceTake device radioCalls).1, waiting := rest }
      (StackEvt.gap evt).items (serviceCalls ++ (serviceTake device radioCalls).2) := by
  have hevents : s.radio.gap.events = evt :: rest.filterMap StackEvt.gapEvt := by
    rw [h.events, hwaiting]
    rfl
  have hlinks := h.radio.links
  rw [Gap.links_cons hevents] at hlinks
  have hwaits := h.waiting
  rw [hwaiting] at hwaits
  obtain ⟨hvalid, hrest⟩ := hwaits
  have hradio : radio.InRole button1 :=
    h.radio.step (show RadioEvent.InLoop button1 s.radio .deliver from trivial) hok
  cases hdispatched with
  | connected role hflag hsame =>
    have hbefore : s.radio.isConnected = false := by simpa using hlinks.1.symm
    have hcentral := h.radio.connected hevents
    have hhandle : radio.connHandle ≠ bleConnHandleInvalid := fun heq => hvalid (congrArg some heq)
    cases hservice
    have hcoherent (device : Device) (hclient : device.client.connHandle = radio.connHandle)
        (hserver : device.server.connHandle = radio.connHandle) :
        Application.Coherent button1 { radio, device, waiting := rest } :=
      { radio := hradio
        events := hsame
        waiting := by rw [hflag]; exact hrest
        client := hclient
        server := hserver
        asServer := fun _ => hflag
        asClient := fun _ => hflag }
    by_cases hrole : role = .central
    · rw [if_pos hrole, serviceTake_central _ hhandle, hcentral.mp hrole]
      refine ⟨hcentral.mp hrole ▸ hcoherent _ rfl rfl, ?_, rfl⟩
      rw [Application.link_of_disconnected hbefore, Application.link_of_connected hflag]
      exact Sessions.after_used_cons radio.connHandle []
    · have hbutton : button1 = true := by simpa using mt hcentral.mpr hrole
      rw [if_neg hrole, hbutton]
      refine ⟨hbutton ▸ hcoherent _ rfl rfl, ?_, rfl⟩
      rw [Application.link_of_disconnected hbefore, Application.link_of_connected hflag]
      rfl
  | disconnected hflag hhandle hsame =>
    have hbefore : s.radio.isConnected = true := by simpa using hlinks.1.symm
    cases hservice
    refine ⟨?_, ?_, by cases button1 <;> rfl⟩
    · exact
        { radio := hradio
          events := hsame
          waiting := by rw [hflag]; exact hrest
          client := hhandle.symm
          server := hhandle.symm
          asServer := nofun
          asClient := nofun }
    · rw [Application.link_of_connected hbefore, Application.link_of_disconnected hflag]
      rfl
  | other evt hlink haside =>
    obtain ⟨hconnected, hhandle, hsame⟩ := haside
    have hpass : (StackEvt.gap evt).service = .other ∧ (StackEvt.gap evt).items = [] := by
      cases evt with
      | connected | disconnected => cases hlink
      | _ => exact ⟨rfl, rfl⟩
    rw [hpass.1] at hservice
    rw [hpass.2]
    cases hservice
    rw [hlink, Option.getD_none] at hrest
    refine .of_calls ?_ ?_ nofun
    · exact
        { radio := hradio
          events := hsame
          waiting := by rw [hconnected]; exact hrest
          client := h.client.trans hhandle.symm
          server := h.server.trans hhandle.symm
          asServer := fun hrole => hconnected.trans (h.asServer hrole)
          asClient := fun hrole => hconnected.trans (h.asClient hrole) }
    · unfold Application.link
      dsimp only
      rw [hconnected, hhandle]
      rfl

theorem applicationStep_deliver (hevents : s.radio.gap.events = s.waiting.filterMap StackEvt.gapEvt)
    (hstep : applicationStep t s (.deliver uninit) = some (s', calls)) :
    Delivered uninit s s' calls := by
  obtain ⟨radio, device, waiting⟩ := s
  cases waiting with
  | nil =>
    cases hstep
    exact .nothing rfl
  | cons evt rest =>
    obtain ⟨⟨after, serviceCalls⟩, hservice, hstep⟩ := Option.bind_eq_some_iff.mp hstep
    cases evt with
    | gatt evt =>
      cases hstep
      have hsame : radio.gap.events = rest.filterMap StackEvt.gapEvt := hevents
      have hhanded := Delivered.service (s := ⟨radio, device, .gatt evt :: rest⟩) evt rest
        rfl hservice
      dsimp only
      rw [← hsame]
      exact hhanded
    | gap evt =>
      obtain ⟨⟨radio', radioCalls⟩, hdispatch, hstep⟩ := Option.bind_eq_some_iff.mp hstep
      cases hstep
      have hok : bleEvtDispatch { radio with gap.events := rest.filterMap StackEvt.gapEvt } evt =
          .ok (radio', radioCalls) := by
        cases hresult : bleEvtDispatch
            { radio with gap.events := rest.filterMap StackEvt.gapEvt } evt with
        | error call =>
          rw [hresult] at hdispatch
          cases hdispatch
        | ok result =>
          rw [hresult] at hdispatch
          cases hdispatch
          rfl
      have hdelivered : radioStep radio .deliver = .ok (radio', radioCalls) := by
        have hhead : radio.gap.events = evt :: rest.filterMap StackEvt.gapEvt := hevents
        rw [radioStep, hhead]
        exact hok
      exact .link evt rest rfl hdelivered (bleEvtDispatch_dispatched hok) hservice

theorem Application.Coherent.deliver (h : s.Coherent button1)
    (hdelivered : Delivered uninit s s' calls) :
    LinkStep button1 s s' (ApplicationEvent.items s (.deliver uninit)) calls := by
  cases hdelivered with
  | nothing hwaiting =>
    rw [ApplicationEvent.items, hwaiting]
    exact .of_calls h rfl nofun
  | service evt rest hwaiting hservice =>
    rw [ApplicationEvent.items, hwaiting]
    exact h.service hwaiting hservice
  | link evt rest hwaiting hok hdispatched hservice =>
    rw [ApplicationEvent.items, hwaiting]
    exact h.link hwaiting hok hdispatched hservice

theorem Application.Coherent.step (h : s.Coherent button1) {event : ApplicationEvent}
    (hreal : event.Real button1 s) (hstep : applicationStep t s event = some (s', calls)) :
    LinkStep button1 s s' (event.items s) calls := by
  cases event with
  | main task =>
    obtain ⟨⟨radio, radioCalls⟩, hrun, hret⟩ := Option.bind_eq_some_iff.mp hstep
    cases hret
    have hok := radioRun_eq_some.mp hrun
    exact h.main hreal hok (radioStep_main_aside hok)
  | storageResume refusal =>
    obtain ⟨⟨radio, radioCalls⟩, hrun, hret⟩ := Option.bind_eq_some_iff.mp hstep
    cases hret
    have hok := radioRun_eq_some.mp hrun
    have hloop : RadioEvent.InLoop button1 s.radio (.storageResume refusal) := trivial
    exact h.main hloop hok (radioStep_resume_aside hok)
  | own event =>
    unfold applicationStep at hstep
    dsimp only at hstep
    split at hstep
    · cases hstep
      exact .of_calls h rfl nofun
    · obtain ⟨⟨device, deviceCalls⟩, hown, hret⟩ := Option.bind_eq_some_iff.mp hstep
      cases hret
      exact h.own hreal.1 hreal.2 hown
  | air change => exact h.air hreal hstep
  | gatt evt =>
    cases hstep
    exact h.arrive hreal.1 hreal.2
  | deliver uninit => exact h.deliver (applicationStep_deliver h.events hstep)

end

-- ---------------------------------------------------------------------------
-- Runs
-- ---------------------------------------------------------------------------

def sessionLog (t : AppTimer) (s : Application) (event : ApplicationEvent) :
    List (Sessions.Item UInt16) :=
  event.items s ++
    (Runs.seenOut (applicationStep t) DeviceCall.connHandle s event).map .used

theorem link_boot (valueHandles : List UInt16) : (applicationBoot valueHandles).link = none :=
  Application.link_of_disconnected (show radioBoot.isConnected = false by decide)

/-- What holds of a run so far. -/
structure OneSession (button1 : Bool) (s : Application) (log : List (Sessions.Item UInt16))
    (calls : List DeviceCall) : Prop where
  coherent : s.Coherent button1
  orderly : Sessions.after none log = some s.link
  searches : calls.filterMap DeviceCall.search = if button1 then [] else log.filterMap opened

theorem OneSession.step {s s' : Application} (h : OneSession button1 s log past)
    (hreal : ApplicationEvent.Real button1 s event)
    (hstep : applicationStep t s event = some (s', calls)) :
    OneSession button1 s' (log ++ sessionLog t s event) (past ++ calls) := by
  have hlinks := h.coherent.step hreal hstep
  have huses : sessionLog t s event =
      event.items s ++ (calls.filterMap DeviceCall.connHandle).map .used := by
    rw [sessionLog, Runs.seenOut_of_step hstep]
  refine ⟨hlinks.coherent, ?_, ?_⟩
  · rw [Sessions.after_append, h.orderly, Option.bind_some, huses]
    exact hlinks.log
  · have hnone : ((calls.filterMap DeviceCall.connHandle).map Sessions.Item.used).filterMap opened =
        [] := by
      refine List.filterMap_eq_nil_iff.mpr fun item hitem => ?_
      obtain ⟨connHandle, -, rfl⟩ := List.mem_map.mp hitem
      rfl
    rw [List.filterMap_append, h.searches, hlinks.searches, huses, List.filterMap_append,
      List.filterMap_append, hnone, List.append_nil]
    cases button1 <;> rfl

/-- For every order of the events of the link, those of the attribute protocol,
the functions of the main loop and the buttons, from the boot on: sessions open
and close one after another, every call of the service's names the session that
is open, and the service has a role in one only. Whenever no event waits,
the device has a link exactly when a session is open. A device that looks for
one that advertises starts one search in each session, the other starts none. -/
theorem application_one_session (t : AppTimer) (valueHandles : List UInt16) (button1 : Bool)
    (events : List ApplicationEvent)
    (hreal : Runs.Guarded (applicationStep t) (fun s event => event.Real button1 s)
      (applicationBoot valueHandles) events)
    (hrun : Runs.run (applicationStep t) (applicationBoot valueHandles) events = some (s, calls)) :
    let log := Runs.observed (applicationStep t) (sessionLog t) (applicationBoot valueHandles)
      events
    Sessions.after none log = some s.link ∧
      (s.device.isServiceServer = true ∨ s.device.isServiceClient = true → s.link.isSome = true) ∧
      (s.waiting = [] → s.link.isSome = s.radio.gap.linked) ∧
      calls.filterMap DeviceCall.search = if button1 then [] else log.filterMap opened := by
  obtain ⟨hcoherent, hlog, hsearches⟩ := hreal.reports
    (P := fun s log calls => OneSession button1 s log calls)
    (fun s log past event s' calls h hreal hstep => h.step hreal hstep) [] []
    ⟨coherent_boot button1 valueHandles, congrArg some (link_boot valueHandles).symm,
      by cases button1 <;> rfl⟩ hrun
  refine ⟨hlog, fun hrole => ?_, fun hquiet => ?_, hsearches⟩
  · rw [s.isSome_link]
    exact hrole.elim hcoherent.asServer hcoherent.asClient
  · have hlinks := hcoherent.radio.links
    rw [Gap.links, hcoherent.events, hquiet] at hlinks
    exact s.isSome_link.trans hlinks

/-- A device finds another, becomes its client and loses it. Of its three
scores one finds a session. -/
def oneSession : List ApplicationEvent :=
  [.main (.discoveryTasks false nrfSuccess), .main (.discoveryTasks false nrfSuccess),
    .air (.report matchingReport), .deliver 0, .own (.setMyScore 1), .air (.linkCentral 5),
    .deliver 0, .gatt (.gattcPrimSrvcDiscRsp .success [0x10]),
    .gatt (.gattcPrimSrvcDiscRsp .attributeNotFound []), .deliver 0, .deliver 0,
    .gatt (.gattcReadRsp 0x12 0 attributesAt16.info.bytes), .deliver 0, .own (.setMyScore 2),
    .gatt .gattcWriteRsp, .air .unlinkCentral, .deliver 0, .deliver 0, .own (.setMyScore 3)]

theorem application_one_session_lostPeer : ∃ s calls,
    Runs.run (applicationStep appTimerSdk) (applicationBoot []) oneSession = some (s, calls) ∧
      s.link = none ∧ calls.filterMap DeviceCall.search = [5] ∧
      calls.filterMap DeviceCall.connHandle = List.replicate 8 5 := by
  have hrun : (Runs.run (applicationStep appTimerSdk) (applicationBoot []) oneSession).isSome := by
    decide +kernel
  obtain ⟨⟨s, calls⟩, h⟩ := Option.isSome_iff_exists.mp hrun
  have hend : ∀ final ∈ Runs.run (applicationStep appTimerSdk) (applicationBoot []) oneSession,
      final.1.radio.gap.linked = false ∧ final.1.waiting = [] ∧
        final.2.filterMap DeviceCall.connHandle = List.replicate 8 5 := by decide +kernel
  have hopened : (Runs.observed (applicationStep appTimerSdk) (sessionLog appTimerSdk)
      (applicationBoot []) oneSession).filterMap opened = [5] := by decide +kernel
  obtain ⟨hunlinked, hquiet, hhandles⟩ := hend (s, calls) h
  obtain ⟨-, -, hlink, hsearches⟩ :=
    application_one_session appTimerSdk [] false oneSession (by decide +kernel) h
  refine ⟨s, calls, h, ?_, hsearches.trans hopened, hhandles⟩
  exact Option.isNone_iff_eq_none.mp <|
    Option.isSome_eq_false_iff.mp ((hlink hquiet).trans hunlinked)

end WaterBall
