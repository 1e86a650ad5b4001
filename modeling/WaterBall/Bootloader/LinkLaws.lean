import WaterBall.Bootloader.DataLaws

/-!
# What becomes of the link

A bootloader advertises, has a link, or has an event on its way that brings it
on. It falls silent after fifty advertisements in a row that nobody has
answered, or because the transport is closed, and then for good.
-/

namespace WaterBall

open Support

-- ---------------------------------------------------------------------------
-- Events that leave the link alone
-- ---------------------------------------------------------------------------

/-- The variables of the link. -/
structure DfuLink where
  gap : Gap
  isAdvertising : Bool
  connHandle : UInt16
  tearDownInProgress : Bool
  directAdvCnt : UInt32

def DfuTransport.link (t : DfuTransport) : DfuLink where
  gap := t.gap
  isAdvertising := t.isAdvertising
  connHandle := t.connHandle
  tearDownInProgress := t.tearDownInProgress
  directAdvCnt := t.directAdvCnt

def DfuCall.ofLink : DfuCall → Bool
  | .advStart _ => true
  | .updateTimeout => true
  | _ => false

def Still (calls : List DfuCall) : Prop := calls.filter DfuCall.ofLink = []

section
variable {t t' : DfuTransport}

theorem Still.append (h : Still calls) (h' : Still calls') : Still (calls ++ calls') := by
  rw [Still, List.filter_append, h, h', List.append_nil]

theorem Still.cons (hcall : call.ofLink = false) (h : Still calls) : Still (call :: calls) := by
  rw [Still, List.filter_cons_of_neg (by rw [hcall]; exact Bool.false_ne_true), h]

theorem dfuResponseSend_still (h : dfuResponseSend sent procedure respVal = some calls) :
    Still calls := by
  rw [dfuResponseSend_eq_some h]
  rfl

theorem answered_link {answers : PacketAnswers} {call : DfuCall} (hcall : Still [call])
    (h : (if answers.pktHandle ≠ nrfSuccess then
        (dfuResponseSend answers.sent procedure respVal).bind fun response =>
          some (t, call :: response)
      else some (t, [call])) = some (t', calls)) : t'.link = t.link ∧ Still calls := by
  split at h
  · obtain ⟨response, hresponse, h⟩ := Option.bind_eq_some_iff.mp h
    cases h
    exact ⟨rfl, hcall.append (dfuResponseSend_still hresponse)⟩
  · cases h
    exact ⟨rfl, hcall⟩

theorem startDataProcess_link (h : startDataProcess t data answers = some (t', calls)) :
    t'.link = t.link ∧ Still calls := by
  unfold startDataProcess at h
  split at h
  · obtain ⟨calls', hcalls, h⟩ := Option.bind_eq_some_iff.mp h
    cases h
    exact ⟨rfl, dfuResponseSend_still hcalls⟩
  · exact answered_link (by exact rfl) h

theorem initDataProcess_link (h : initDataProcess t data beyond answers = some (t', calls)) :
    t'.link = t.link ∧ Still calls := by
  simp only [initDataProcess, Option.bind_eq_bind, Option.pure_def] at h
  split at h
  · obtain ⟨r, -, h⟩ := Option.bind_eq_some_iff.mp h
    exact answered_link (by exact rfl) h
  · obtain ⟨r, -, h⟩ := Option.bind_eq_some_iff.mp h
    exact answered_link (by exact rfl) h

theorem notifyReceipt_link (h : notifyReceipt t sent = some (t', calls)) :
    t'.link = t.link ∧ Still calls := by
  have hcases := notifyReceipt_eq_some h
  split at hcases
  · split at hcases
    · obtain ⟨rfl, rfl⟩ := hcases
      exact ⟨rfl, rfl⟩
    · obtain ⟨rfl, rfl⟩ := hcases
      exact ⟨rfl, rfl⟩
  · obtain ⟨rfl, rfl⟩ := hcases
    exact ⟨rfl, rfl⟩

theorem appDataProcess_link (h : appDataProcess t data answers = some (t', calls)) :
    t'.link = t.link ∧ Still calls := by
  unfold appDataProcess at h
  split at h
  · obtain ⟨calls', hcalls, h⟩ := Option.bind_eq_some_iff.mp h
    cases h
    exact ⟨rfl, dfuResponseSend_still hcalls⟩
  split at h
  · obtain ⟨calls', hcalls, h⟩ := Option.bind_eq_some_iff.mp h
    cases h
    exact ⟨rfl, dfuResponseSend_still hcalls⟩
  dsimp only at h
  split at h
  · obtain ⟨calls', hcalls, h⟩ := Option.bind_eq_some_iff.mp h
    cases h
    exact ⟨rfl, dfuResponseSend_still hcalls⟩
  split at h
  · obtain ⟨calls', hcalls, h⟩ := Option.bind_eq_some_iff.mp h
    cases h
    exact ⟨rfl, dfuResponseSend_still hcalls⟩
  split at h
  · cases h
    exact ⟨rfl, rfl⟩
  split at h
  · obtain ⟨⟨t₁, receipts⟩, hnotify, h⟩ := Option.bind_eq_some_iff.mp h
    cases h
    obtain ⟨hlink, hstill⟩ := notifyReceipt_link hnotify
    exact ⟨hlink, .cons rfl hstill⟩
  split at h
  · obtain ⟨refused, hrefused, h⟩ := Option.bind_eq_some_iff.mp h
    obtain ⟨calls', hcalls, h⟩ := Option.bind_eq_some_iff.mp h
    cases h
    have hboth := (dfuResponseSend_still hrefused).append (dfuResponseSend_still hcalls)
    exact ⟨rfl, Still.cons rfl hboth⟩
  · obtain ⟨calls', hcalls, h⟩ := Option.bind_eq_some_iff.mp h
    cases h
    exact ⟨rfl, .cons rfl (dfuResponseSend_still hcalls)⟩

theorem dfuCbData_link (h : dfuCbData t result pData sd rxConsume sent = some (t', calls)) :
    t'.link = t.link ∧ Still calls := by
  unfold dfuCbData at h
  split at h
  · split at h
    · obtain ⟨calls', hcalls, h⟩ := Option.bind_eq_some_iff.mp h
      cases h
      rw [dfuDisconnect_eq_some hcalls]
      exact ⟨rfl, rfl⟩
    · cases h
      exact ⟨rfl, rfl⟩
  · obtain ⟨-, -, h⟩ := Option.bind_eq_some_iff.mp h
    dsimp only at h
    split at h
    · obtain ⟨calls', hcalls, h⟩ := Option.bind_eq_some_iff.mp h
      cases h
      exact ⟨rfl, dfuResponseSend_still hcalls⟩
    · cases h
      exact ⟨rfl, rfl⟩

def DfuEvent.delivered (t : DfuTransport) : DfuEvent → List GapEvt
  | .deliver _ => t.gap.events.head?.toList
  | _ => []

def DfuEvent.closes : DfuEvent → Bool
  | .close _ => true
  | .service (.activateNReset _ _) => true
  | .service (.sysReset _) => true
  | _ => false

theorem dfuStep_closes (hcloses : event.closes = true)
    (h : dfuStep t event = some (t', calls)) :
    event.delivered t = [] ∧ ∃ sd closing rest, dfuTransportClose t sd = some (t', closing) ∧
      calls = closing ++ rest ∧ Still rest := by
  cases event with
  | close sd => exact ⟨rfl, sd, calls, [], h, (List.append_nil calls).symm, rfl⟩
  | service evt =>
    cases evt with
    | activateNReset sd imageActivate =>
      obtain ⟨⟨t₁, closing⟩, hclose, h⟩ := Option.bind_eq_some_iff.mp h
      cases h
      refine ⟨rfl, sd, closing, _, hclose, rfl, ?_⟩
      split_ifs <;> rfl
    | sysReset sd =>
      obtain ⟨⟨t₁, closing⟩, hclose, h⟩ := Option.bind_eq_some_iff.mp h
      cases h
      exact ⟨rfl, sd, closing, _, hclose, rfl, rfl⟩
    | _ => cases hcloses
  | _ => cases hcloses

/-- What an event does to the link: it closes the transport, delivers an event of
the radio, or lets something happen there. All others leave it alone. -/
theorem dfuStep_link_cases (h : dfuStep t event = some (t', calls)) :
    event.closes = true ∨ (∃ sd, event = .deliver sd) ∨ (∃ change, event = .air change) ∨
      (event.delivered t = [] ∧ t'.link = t.link ∧ Still calls) := by
  cases event with
  | service evt =>
    cases evt with
    | validate imageValidate sent =>
      obtain ⟨calls', hcalls, h⟩ := Option.bind_eq_some_iff.mp h
      cases h
      exact .inr (.inr (.inr ⟨rfl, rfl, .cons rfl (dfuResponseSend_still hcalls)⟩))
    | activateNReset => exact .inl rfl
    | sysReset => exact .inl rfl
    | start mode =>
      cases h
      exact .inr (.inr (.inr ⟨rfl, rfl, rfl⟩))
    | receiveInitData complete initPktComplete sent =>
      simp only [dfuStep, onDfuEvt] at h
      split at h
      · obtain ⟨calls', hcalls, h⟩ := Option.bind_eq_some_iff.mp h
        cases h
        exact .inr (.inr (.inr ⟨rfl, rfl, .cons rfl (dfuResponseSend_still hcalls)⟩))
      · cases h
        exact .inr (.inr (.inr ⟨rfl, rfl, rfl⟩))
    | receiveAppData =>
      cases h
      exact .inr (.inr (.inr ⟨rfl, rfl, rfl⟩))
    | packetWrite data beyond answers =>
      simp only [dfuStep, onDfuEvt, onDfuPktWrite] at h
      refine .inr (.inr (.inr ⟨rfl, ?_⟩))
      split at h
      · exact startDataProcess_link h
      · exact initDataProcess_link h
      · exact appDataProcess_link h
      · cases h
        exact ⟨rfl, rfl⟩
    | pktRcptNotifEnabled numOfPkts =>
      cases h
      exact .inr (.inr (.inr ⟨rfl, rfl, rfl⟩))
    | pktRcptNotifDisabled =>
      cases h
      exact .inr (.inr (.inr ⟨rfl, rfl, rfl⟩))
    | bytesReceivedSend sent =>
      obtain ⟨-, -, h⟩ := Option.bind_eq_some_iff.mp h
      cases h
      exact .inr (.inr (.inr ⟨rfl, rfl, rfl⟩))
  | flashed result sd rxConsume sent =>
    simp only [dfuStep] at h
    refine .inr (.inr (.inr ⟨rfl, ?_⟩))
    split at h
    · cases h
      exact ⟨rfl, rfl⟩
    · have hlink := dfuCbData_link h
      exact hlink
  | prepared result sent =>
    obtain ⟨calls', hcalls, h⟩ := Option.bind_eq_some_iff.mp h
    cases h
    exact .inr (.inr (.inr ⟨rfl, rfl, dfuResponseSend_still hcalls⟩))
  | deliver sd => exact .inr (.inl ⟨sd, rfl⟩)
  | gattsTimeout sd =>
    obtain ⟨calls', hcalls, h⟩ := Option.bind_eq_some_iff.mp h
    cases h
    rw [dfuDisconnect_eq_some hcalls]
    exact .inr (.inr (.inr ⟨rfl, rfl, rfl⟩))
  | close => exact .inl rfl
  | air change => exact .inr (.inr (.inl ⟨change, rfl⟩))

end

-- ---------------------------------------------------------------------------
-- The life of a link
-- ---------------------------------------------------------------------------

/-- An advertisement ends with its timeout (`timedOut`) or with a link, which
may be lost before the event of its beginning has arrived (`linkLost`). -/
inductive Life
  | advertising
  | timedOut
  | linked (connHandle : UInt16)
  | linkLost (connHandle : UInt16)
  | connected
  | lost
  | silent

/-- What the radio does, the events on their way, and what the module knows. -/
structure LinkView where
  advertising : Bool
  peripheralLink : Bool
  waiting : List GapEvt
  isAdvertising : Bool
  isConnected : Bool

def Life.view : Life → LinkView
  | .advertising => ⟨true, false, [], true, false⟩
  | .timedOut => ⟨false, false, [.timeout .advertising], true, false⟩
  | .linked connHandle => ⟨false, true, [.connected .periph connHandle], true, false⟩
  | .linkLost connHandle =>
    ⟨false, false, [.connected .periph connHandle, .disconnected], true, false⟩
  | .connected => ⟨false, true, [], false, true⟩
  | .lost => ⟨false, false, [.disconnected], false, true⟩
  | .silent => ⟨false, false, [], false, false⟩

/-- A life that a closed transport may have. -/
def Life.Quiet : Life → Prop
  | .connected | .lost | .silent => True
  | _ => False

def Life.Valid : Life → Prop
  | .linked connHandle | .linkLost connHandle => connHandle ≠ bleConnHandleInvalid
  | _ => True

/-- The events that the link depends on. -/
def GapEvt.ofLink : GapEvt → Bool
  | .connected _ _ => true
  | .disconnected => true
  | .timeout src => src == .advertising
  | .advReport _ => false

def Gap.waiting (g : Gap) : List GapEvt := g.events.filter GapEvt.ofLink

def DfuTransport.view (t : DfuTransport) : LinkView where
  advertising := t.gap.advertising
  peripheralLink := t.gap.peripheralLink
  waiting := t.gap.waiting
  isAdvertising := t.isAdvertising
  isConnected := t.isConnected

/-- The transport has that life after so many advertisements in a row without
an answer. -/
structure Lives (t : DfuTransport) (life : Life) (attempts : Nat) : Prop where
  view : t.view = life.view
  valid : life.Valid
  central : t.gap.connecting = none ∧ t.gap.centralLink = false ∧ t.gap.scanning = false
  count : t.directAdvCnt.toNat + attempts = 50
  tornDown : t.tearDownInProgress = true → life.Quiet
  silent : life = .silent → t.tearDownInProgress = true ∨ attempts = 50
  spent : attempts = 50 → life = .silent

section
variable {t t' : DfuTransport} {life : Life} {attempts : Nat}

theorem lives_start (h : dfuTransportUpdateStart dfuTransportReset blePeerData = some (t, calls)) :
    Lives t .advertising 0 ∧ t.tearDownInProgress = false := by
  cases h
  refine ⟨?_, rfl⟩
  exact
    { view := rfl
      valid := trivial
      central := ⟨rfl, rfl, rfl⟩
      count := rfl
      tornDown := nofun
      silent := nofun
      spent := nofun }

theorem Lives.of_link (h : Lives t life attempts) (hlink : t'.link = t.link) :
    Lives t' life attempts := by
  simp only [DfuTransport.link, DfuLink.mk.injEq] at hlink
  obtain ⟨hgap, hadvertising, hhandle, htear, hcount⟩ := hlink
  have hview : t'.view = t.view := by
    simp only [DfuTransport.view, DfuTransport.isConnected, hgap, hadvertising, hhandle]
  exact
    { view := hview.trans h.view
      valid := h.valid
      central := hgap ▸ h.central
      count := hcount ▸ h.count
      tornDown := htear ▸ h.tornDown
      silent := htear ▸ h.silent
      spent := h.spent }

-- ---------------------------------------------------------------------------
-- What the radio does
-- ---------------------------------------------------------------------------

@[simp] theorem Gap.waiting_queue (g : Gap) (evt : GapEvt) :
    (g.queue evt).waiting = g.waiting ++ if evt.ofLink then [evt] else [] := by
  simp only [Gap.waiting, Gap.queue, List.filter_append]
  split
  case isTrue hevt => rw [List.filter_cons_of_pos hevt, List.filter_nil]
  case isFalse hevt => rw [List.filter_cons_of_neg hevt, List.filter_nil]

theorem Lives.of_gap (h : Lives t life attempts) {gap : Gap} {life' : Life}
    (hview : ({ t with gap } : DfuTransport).view = life'.view)
    (hvalid : life'.Valid)
    (hcentral : gap.connecting = none ∧ gap.centralLink = false ∧ gap.scanning = false)
    (hquiet : life.Quiet → life'.Quiet) (hsilent : life' = .silent ↔ life = .silent) :
    Lives { t with gap } life' attempts where
  view := hview
  valid := hvalid
  central := hcentral
  count := h.count
  tornDown := fun htear => hquiet (h.tornDown htear)
  silent := fun hlife => h.silent (hsilent.mp hlife)
  spent := fun hspent => hsilent.mpr (h.spent hspent)

theorem Lives.queue_other (h : Lives t life attempts) (hevt : evt.ofLink = false) :
    Lives { t with gap := t.gap.queue evt } life attempts := by
  have hwaiting : (t.gap.queue evt).waiting = t.gap.waiting := by
    rw [Gap.waiting_queue, hevt]
    exact List.append_nil _
  refine h.of_gap ?_ h.valid h.central id Iff.rfl
  rw [← h.view]
  simp only [DfuTransport.view, hwaiting]
  rfl

def GapChange.Valid : GapChange → Prop
  | .linkPeripheral connHandle => connHandle ≠ bleConnHandleInvalid
  | _ => True

theorem Lives.of_advertising (h : Lives t life attempts) (hradio : t.gap.advertising = true) :
    life = .advertising := by
  have hview : t.gap.advertising = life.view.advertising := congrArg LinkView.advertising h.view
  cases life with
  | advertising => rfl
  | _ => cases hradio.symm.trans hview

theorem Lives.waiting (h : Lives t life attempts) : t.gap.waiting = life.view.waiting :=
  congrArg LinkView.waiting h.view

/-- The life after a change of the radio. -/
def Life.air (life : Life) : GapChange → Life
  | .linkPeripheral connHandle =>
    match life with
    | .advertising => .linked connHandle
    | life => life
  | .unlinkPeripheral =>
    match life with
    | .linked connHandle => .linkLost connHandle
    | .connected => .lost
    | life => life
  | .timeout .advertising =>
    match life with
    | .advertising => .timedOut
    | life => life
  | _ => life

theorem Lives.queue_link (h : Lives t life attempts) {life' : Life}
    {advertising peripheralLink : Bool} (hevt : evt.ofLink = true)
    (hview : life'.view = ⟨advertising, peripheralLink, life.view.waiting ++ [evt],
      life.view.isAdvertising, life.view.isConnected⟩)
    (hvalid : life'.Valid) (hquiet : life.Quiet → life'.Quiet)
    (hsilent : life' = .silent ↔ life = .silent) :
    Lives { t with gap := Gap.queue { t.gap with advertising, peripheralLink } evt } life'
      attempts := by
  have hwaiting : (Gap.queue { t.gap with advertising, peripheralLink } evt).waiting =
      t.gap.waiting ++ [evt] := by
    rw [Gap.waiting_queue, hevt]
    rfl
  refine h.of_gap ?_ hvalid h.central hquiet hsilent
  rw [hview, ← h.view]
  simp only [DfuTransport.view, hwaiting]
  rfl

theorem Lives.air (h : Lives t life attempts) (hvalid : change.Valid) :
    Lives { t with gap := gapStep t.gap change } (life.air change) attempts := by
  have hadvertising : t.gap.advertising = life.view.advertising :=
    congrArg LinkView.advertising h.view
  have hperipheral : t.gap.peripheralLink = life.view.peripheralLink :=
    congrArg LinkView.peripheralLink h.view
  have hsame : Lives { t with gap := t.gap } life attempts := h.of_link rfl
  cases change with
  | report report =>
    simp only [gapStep, h.central.2.2, Bool.false_eq_true, ↓reduceIte]
    exact hsame
  | linkCentral connHandle =>
    simp only [gapStep, h.central.1, Option.isSome_none, Bool.false_eq_true, ↓reduceIte]
    exact hsame
  | unlinkCentral =>
    simp only [gapStep, h.central.2.1, Bool.false_eq_true, ↓reduceIte]
    exact hsame
  | linkPeripheral connHandle =>
    simp only [gapStep, hadvertising]
    cases life with
    | advertising => exact h.queue_link rfl rfl hvalid nofun ⟨nofun, nofun⟩
    | _ => exact hsame
  | unlinkPeripheral =>
    simp only [gapStep, hperipheral]
    cases life with
    | linked connHandle =>
      exact h.queue_link rfl (by rw [hadvertising]; rfl) h.valid nofun ⟨nofun, nofun⟩
    | connected =>
      exact h.queue_link rfl (by rw [hadvertising]; rfl) trivial (fun _ => trivial)
        ⟨nofun, nofun⟩
    | _ => exact hsame
  | timeout src =>
    cases src with
    | advertising =>
      simp only [gapStep, hadvertising]
      cases life with
      | advertising =>
        exact h.queue_link rfl (by rw [hperipheral]; rfl) trivial nofun ⟨nofun, nofun⟩
      | _ => exact hsame
    | scan =>
      simp only [gapStep, h.central.2.2, Bool.false_eq_true, ↓reduceIte]
      exact hsame
    | conn =>
      simp only [gapStep, h.central.1, Option.isSome_none, Bool.false_eq_true, ↓reduceIte]
      exact hsame
    | securityRequest => exact h.queue_other rfl

-- ---------------------------------------------------------------------------
-- What the module does
-- ---------------------------------------------------------------------------

def attemptsAfter (attempts : Nat) : GapEvt → Nat
  | .disconnected => 0
  | .timeout .advertising => attempts + 1
  | _ => attempts

theorem advertisingStart_rests (hidle : t.isAdvertising = false)
    (hradio : t.gap.advertising = false) (hlink : t.gap.peripheralLink = false) :
    advertisingStart t = some
      ({ t with gap.advertising := true, isAdvertising := true },
        [.advStart (advParams t.blePeerData)]) := by
  simp only [advertisingStart, hidle, sdBleGapAdvStart, hradio, hlink]
  rfl

theorem Gap.waiting_cons {g : Gap} {events : List GapEvt} (hevents : g.events = evt :: events) :
    g.waiting = if evt.ofLink then evt :: events.filter GapEvt.ofLink
      else events.filter GapEvt.ofLink := by
  rw [Gap.waiting, hevents, List.filter_cons]

theorem view_eq : t.view = ⟨advertising, peripheralLink, waiting, isAdvertising, isConnected⟩ ↔
    t.gap.advertising = advertising ∧ t.gap.peripheralLink = peripheralLink ∧
      t.gap.waiting = waiting ∧ t.isAdvertising = isAdvertising ∧
      t.isConnected = isConnected := by
  simp only [DfuTransport.view, LinkView.mk.injEq]

/-- The life after the next event, when the transport is open or closed. -/
def Life.deliver (life : Life) (tornDown : Bool) (attempts : Nat) : Life :=
  match life with
  | .timedOut => if attempts + 1 = 50 then .silent else .advertising
  | .linked _ => .connected
  | .linkLost _ => .lost
  | .lost => if tornDown then .silent else .advertising
  | life => life

theorem Lives.deliver_other (h : Lives t life attempts) (hevents : t.gap.events = evt :: events)
    (hevt : evt.ofLink = false) :
    dfuOnBleEvt { t with gap.events := events } nrfSuccess evt =
        some ({ t with gap.events := events }, []) ∧
      Lives { t with gap.events := events } life attempts ∧
      attemptsAfter attempts evt = attempts := by
  have hwaiting : Gap.waiting { t.gap with events } = t.gap.waiting :=
    ((Gap.waiting_cons hevents).trans (if_neg (by rw [hevt]; exact Bool.false_ne_true))).symm
  have hlives : Lives { t with gap.events := events } life attempts := by
    refine h.of_gap ?_ h.valid h.central id Iff.rfl
    rw [← h.view]
    simp only [DfuTransport.view, hwaiting]
    rfl
  cases evt with
  | connected role connHandle => cases hevt
  | disconnected => cases hevt
  | advReport report => exact ⟨rfl, hlives, rfl⟩
  | timeout src =>
    cases src with
    | advertising => cases hevt
    | _ => exact ⟨rfl, hlives, rfl⟩

theorem Lives.deliver_timeout (h : Lives t .timedOut attempts)
    (hevents : t.gap.events = .timeout .advertising :: events) :
    ∃ t' calls, dfuOnBleEvt { t with gap.events := events } nrfSuccess (.timeout .advertising) =
        some (t', calls) ∧
      Lives t' (Life.timedOut.deliver t.tearDownInProgress attempts) (attempts + 1) ∧
      t'.tearDownInProgress = t.tearDownInProgress ∧
      calls.count .updateTimeout = if attempts + 1 = 50 then 1 else 0 := by
  obtain ⟨hradio, hlink, hwaiting, -, hconnected⟩ := view_eq.mp h.view
  have hrest : events.filter GapEvt.ofLink = [] :=
    (List.cons.inj ((Gap.waiting_cons hevents).symm.trans hwaiting)).2
  have hopen : t.tearDownInProgress = false := Bool.eq_false_iff.mpr h.tornDown
  have hcount := h.count
  have hmore : attempts ≠ 50 := fun heq => by cases h.spent heq
  have hone : (1 : UInt32) ≤ t.directAdvCnt := UInt32.le_iff_toNat_le.mpr (by
    rw [UInt32.toNat_one]
    omega)
  have hdown : (t.directAdvCnt - 1).toNat = t.directAdvCnt.toNat - 1 :=
    UInt32.toNat_sub_of_le _ _ hone
  have hnext : (t.directAdvCnt - 1).toNat + (attempts + 1) = 50 := by omega
  simp only [dfuOnBleEvt, ↓reduceIte, Life.deliver]
  by_cases hlast : attempts + 1 = 50
  · have hzero : t.directAdvCnt - 1 = 0 := UInt32.toNat_inj.mp (by rw [UInt32.toNat_zero]; omega)
    rw [if_pos hzero, if_pos hlast, if_pos hlast]
    refine ⟨_, _, rfl, ?_, rfl, rfl⟩
    exact
      { view := view_eq.mpr ⟨hradio, hlink, hrest, rfl, hconnected⟩
        valid := trivial
        central := h.central
        count := hnext
        tornDown := fun _ => trivial
        silent := fun _ => .inr hlast
        spent := fun _ => rfl }
  · have hzero : t.directAdvCnt - 1 ≠ 0 := fun heq => hlast (by
      rw [heq, UInt32.toNat_zero] at hnext
      omega)
    rw [if_neg hzero, if_neg hlast, if_neg hlast]
    refine ⟨_, _, advertisingStart_rests rfl hradio hlink, ?_, rfl, rfl⟩
    exact
      { view := view_eq.mpr ⟨rfl, hlink, hrest, rfl, hconnected⟩
        valid := trivial
        central := h.central
        count := hnext
        tornDown := fun htear => absurd (hopen.symm.trans htear) Bool.false_ne_true
        silent := fun hsilent => by cases hsilent
        spent := fun heq => absurd heq hlast }

theorem Lives.deliver_connected (h : Lives t life attempts)
    (hevents : t.gap.events = .connected role connHandle :: events) :
    ∃ t', dfuOnBleEvt { t with gap.events := events } nrfSuccess (.connected role connHandle) =
        some (t', []) ∧
      Lives t' (life.deliver t.tearDownInProgress attempts) attempts ∧
      t'.tearDownInProgress = t.tearDownInProgress := by
  have hwaiting := (Gap.waiting_cons hevents).symm.trans h.waiting
  have hopen : ¬ life.Quiet → t.tearDownInProgress = false :=
    fun hquiet => Bool.eq_false_iff.mpr fun htear => hquiet (h.tornDown htear)
  refine ⟨_, rfl, ?_, rfl⟩
  cases life with
  | linked handle =>
    obtain ⟨hradio, hlink, -, -, -⟩ := view_eq.mp h.view
    obtain ⟨hevt, hrest⟩ := List.cons.inj hwaiting
    cases hevt
    exact
      { view := view_eq.mpr ⟨hradio, hlink, hrest, rfl, bne_iff_ne.mpr h.valid⟩
        valid := trivial
        central := h.central
        count := h.count
        tornDown := fun _ => trivial
        silent := nofun
        spent := fun heq => nomatch h.spent heq }
  | linkLost handle =>
    obtain ⟨hradio, hlink, -, -, -⟩ := view_eq.mp h.view
    obtain ⟨hevt, hrest⟩ := List.cons.inj hwaiting
    cases hevt
    exact
      { view := view_eq.mpr ⟨hradio, hlink, hrest, rfl, bne_iff_ne.mpr h.valid⟩
        valid := trivial
        central := h.central
        count := h.count
        tornDown := fun _ => trivial
        silent := nofun
        spent := fun heq => nomatch h.spent heq }
  | timedOut => cases (List.cons.inj hwaiting).1
  | lost => cases (List.cons.inj hwaiting).1
  | _ => cases hwaiting

theorem Lives.deliver_disconnected (h : Lives t life attempts)
    (hevents : t.gap.events = .disconnected :: events) :
    ∃ t' calls, dfuOnBleEvt { t with gap.events := events } nrfSuccess .disconnected =
        some (t', calls) ∧
      Lives t' (life.deliver t.tearDownInProgress attempts) 0 ∧
      t'.tearDownInProgress = t.tearDownInProgress ∧ calls.count .updateTimeout = 0 ∧
      (t.tearDownInProgress = true → calls = []) := by
  have hwaiting := (Gap.waiting_cons hevents).symm.trans h.waiting
  cases life with
  | lost =>
    obtain ⟨hradio, hlink, -, hidle, -⟩ := view_eq.mp h.view
    have hrest := (List.cons.inj hwaiting).2
    cases htear : t.tearDownInProgress with
    | true =>
      refine ⟨{ t with
          gap.events := events
          directAdvCnt := appDirectedAdvTimeout
          connHandle := bleConnHandleInvalid }, [], ?_, ?_, htear, rfl, fun _ => rfl⟩
      · simp only [dfuOnBleEvt, htear]
        rfl
      · exact
          { view := view_eq.mpr ⟨hradio, hlink, hrest, hidle, rfl⟩
            valid := trivial
            central := h.central
            count := rfl
            tornDown := fun _ => trivial
            silent := fun _ => .inl htear
            spent := fun hspent => absurd hspent (by decide) }
    | false =>
      refine ⟨{ t with
          gap := { t.gap with events, advertising := true }
          directAdvCnt := appDirectedAdvTimeout
          isAdvertising := true
          connHandle := bleConnHandleInvalid }, [.advStart (advParams t.blePeerData)],
        ?_, ?_, htear, rfl, fun hclosed => absurd hclosed Bool.false_ne_true⟩
      · simp only [dfuOnBleEvt, htear, advertisingStart, hidle, sdBleGapAdvStart, hradio, hlink]
        rfl
      · exact
          { view := view_eq.mpr ⟨rfl, hlink, hrest, rfl, rfl⟩
            valid := trivial
            central := h.central
            count := rfl
            tornDown := fun hclosed => absurd (htear.symm.trans hclosed) Bool.false_ne_true
            silent := fun hsilent => by cases hsilent
            spent := fun hspent => absurd hspent (by decide) }
  | timedOut => cases (List.cons.inj hwaiting).1
  | linked => cases (List.cons.inj hwaiting).1
  | linkLost => cases (List.cons.inj hwaiting).1
  | _ => cases hwaiting

theorem Still.count_updateTimeout (h : Still calls) : calls.count .updateTimeout = 0 :=
  List.count_eq_zero.mpr fun hmem => List.filter_eq_nil_iff.mp h _ hmem rfl

theorem Lives.deliver_next (h : Lives t life attempts) (hevents : t.gap.events = evt :: events) :
    ∃ t' calls life', dfuOnBleEvt { t with gap.events := events } nrfSuccess evt =
        some (t', calls) ∧
      Lives t' life' (attemptsAfter attempts evt) ∧
      (calls.count .updateTimeout + if attempts = 50 then 1 else 0) =
        (if attemptsAfter attempts evt = 50 then 1 else 0) ∧
      (t.tearDownInProgress = true → t'.tearDownInProgress = true ∧ Still calls) := by
  by_cases hevt : evt.ofLink = true
  case neg =>
    obtain ⟨hnext, hlives, hattempts⟩ := h.deliver_other hevents (Bool.eq_false_iff.mpr hevt)
    rw [hattempts]
    exact ⟨_, _, life, hnext, hlives, Nat.zero_add _, fun htear => ⟨htear, rfl⟩⟩
  case pos =>
  have hwaiting := (Gap.waiting_cons hevents).symm.trans h.waiting
  rw [if_pos hevt] at hwaiting
  have hmore : attempts ≠ 50 := fun heq => by
    rw [h.spent heq] at hwaiting
    cases hwaiting
  rw [if_neg hmore]
  cases evt with
  | connected role connHandle =>
    obtain ⟨t', hnext, hlives, htear⟩ := h.deliver_connected hevents
    refine ⟨t', [], _, hnext, hlives, ?_, fun hclosed => ⟨htear.trans hclosed, rfl⟩⟩
    exact (if_neg hmore).symm
  | disconnected =>
    obtain ⟨t', calls, hnext, hlives, htear, hcount, hcalls⟩ := h.deliver_disconnected hevents
    refine ⟨t', calls, _, hnext, hlives, hcount, fun hclosed => ⟨htear.trans hclosed, ?_⟩⟩
    rw [hcalls hclosed]
    rfl
  | timeout src =>
    obtain rfl : src = .advertising := beq_iff_eq.mp hevt
    have hlife : life = .timedOut := by
      cases life with
      | timedOut => rfl
      | linked => cases (List.cons.inj hwaiting).1
      | linkLost => cases (List.cons.inj hwaiting).1
      | lost => cases (List.cons.inj hwaiting).1
      | _ => cases hwaiting
    subst hlife
    obtain ⟨t', calls, hnext, hlives, -, hcount⟩ := h.deliver_timeout hevents
    exact ⟨t', calls, _, hnext, hlives, hcount, fun hclosed => absurd (h.tornDown hclosed) id⟩
  | advReport => cases hevt

theorem dfuOnBleEvt_sd (h : dfuOnBleEvt t sd evt = some r) :
    dfuOnBleEvt t nrfSuccess evt = some r := by
  cases evt with
  | disconnected =>
    obtain ⟨u, hcheck, -⟩ := Option.bind_eq_some_iff.mp h
    rwa [dfuCheck_eq_some hcheck] at h
  | _ => exact h

theorem advertisingStart_peripheralLink (h : advertisingStart t = some (t', calls)) :
    t'.gap.peripheralLink = t.gap.peripheralLink := by
  obtain ⟨-, rfl, -⟩ | ⟨-, rfl, -⟩ := advertisingStart_eq_some h
  · rfl
  · rfl

theorem dfuOnBleEvt_peripheralLink (h : dfuOnBleEvt t sd evt = some (t', calls)) :
    t'.gap.peripheralLink = t.gap.peripheralLink := by
  cases evt with
  | connected role connHandle =>
    cases h
    rfl
  | disconnected =>
    obtain ⟨-, rfl, -⟩ | ⟨-, t₂, hstart, rfl⟩ := dfuOnBleEvt_disconnected h
    · rfl
    · have hlink := advertisingStart_peripheralLink hstart
      exact hlink
  | timeout src =>
    simp only [dfuOnBleEvt] at h
    split at h
    · split at h
      · cases h
        rfl
      · have hlink := advertisingStart_peripheralLink h
        exact hlink
    · cases h
      rfl
  | advReport report =>
    cases h
    rfl

theorem Lives.close (h : Lives t life attempts)
    (hclose : dfuTransportClose t sd = some (t', calls)) :
    ∃ life', Lives t' life' attempts ∧ t'.tearDownInProgress = true ∧ Still calls ∧
      t'.gap.peripheralLink = t.gap.peripheralLink := by
  obtain ⟨hconnected, rfl, rfl⟩ | ⟨hnot, hstop⟩ := dfuTransportClose_cases hclose
  · have hview := congrArg LinkView.isConnected h.view
    refine ⟨life, ?_, rfl, rfl, rfl⟩
    exact
      { view := h.view
        valid := h.valid
        central := h.central
        count := h.count
        tornDown := fun _ => by
          cases life with
          | connected => trivial
          | lost => trivial
          | _ => cases hconnected.symm.trans hview
        silent := fun _ => .inl rfl
        spent := h.spent }
  obtain ⟨hidle, rfl, rfl⟩ | ⟨-, hradio, rfl, rfl⟩ := advertisingStop_eq_some hstop
  · have hlife : life = .silent := by
      cases life with
      | silent => rfl
      | connected => cases hnot.symm.trans (congrArg LinkView.isConnected h.view)
      | lost => cases hnot.symm.trans (congrArg LinkView.isConnected h.view)
      | _ => cases hidle.symm.trans (congrArg LinkView.isAdvertising h.view)
    subst hlife
    refine ⟨.silent, ?_, rfl, rfl, rfl⟩
    exact
      { view := h.view
        valid := trivial
        central := h.central
        count := h.count
        tornDown := fun _ => trivial
        silent := fun _ => .inl rfl
        spent := h.spent }
  · obtain rfl := h.of_advertising hradio
    obtain ⟨-, hlink, hwaiting, -, -⟩ := view_eq.mp h.view
    refine ⟨.silent, ?_, rfl, rfl, rfl⟩
    exact
      { view := view_eq.mpr ⟨rfl, hlink, hwaiting, rfl, hnot⟩
        valid := trivial
        central := h.central
        count := h.count
        tornDown := fun _ => trivial
        silent := fun _ => .inl rfl
        spent := fun _ => rfl }

-- ---------------------------------------------------------------------------
-- Steps and runs
-- ---------------------------------------------------------------------------

def DfuEvent.Valid : DfuEvent → Prop
  | .air change => change.Valid
  | _ => True

instance : DecidablePred GapChange.Valid := fun change => by
  unfold GapChange.Valid
  split <;> infer_instance

instance : DecidablePred DfuEvent.Valid := fun event => by
  unfold DfuEvent.Valid
  split <;> infer_instance

theorem Life.air_unlinked {life : Life} (hquiet : life.Quiet)
    (hlink : life.view.peripheralLink = false) (change : GapChange) :
    (life.air change).view.peripheralLink = false := by
  cases life with
  | connected => cases hlink
  | lost => cases change <;> first | rfl | (rename_i src; cases src <;> rfl)
  | silent => cases change <;> first | rfl | (rename_i src; cases src <;> rfl)
  | _ => exact absurd hquiet id

theorem Lives.step (h : Lives t life attempts) (hvalid : event.Valid)
    (hstep : dfuStep t event = some (t', calls)) :
    ∃ life', Lives t' life' ((event.delivered t).foldl attemptsAfter attempts) ∧
      (calls.count .updateTimeout + if attempts = 50 then 1 else 0) =
        (if (event.delivered t).foldl attemptsAfter attempts = 50 then 1 else 0) ∧
      (t.tearDownInProgress = true → t'.tearDownInProgress = true ∧ Still calls ∧
        (t.gap.peripheralLink = false → t'.gap.peripheralLink = false)) := by
  obtain hcloses | ⟨sd, rfl⟩ | ⟨change, rfl⟩ | ⟨hdelivered, hlink, hstill⟩ :=
    dfuStep_link_cases hstep
  · obtain ⟨hdelivered, sd, closing, rest, hclose, rfl, hrest⟩ := dfuStep_closes hcloses hstep
    obtain ⟨life', hlives, htear, hstill, hperipheral⟩ := h.close hclose
    rw [hdelivered]
    have hboth := hstill.append hrest
    refine ⟨life', hlives, ?_, fun _ => ⟨htear, hboth, fun hlink => hperipheral.trans hlink⟩⟩
    rw [hboth.count_updateTimeout]
    exact Nat.zero_add _
  · simp only [dfuStep] at hstep
    split at hstep
    case h_1 hevents =>
      cases hstep
      rw [DfuEvent.delivered, hevents]
      exact ⟨life, h, Nat.zero_add _, fun htear => ⟨htear, rfl, id⟩⟩
    case h_2 evt events hevents =>
      rw [DfuEvent.delivered, hevents]
      obtain ⟨t₁, calls₁, life', hnext, hlives, hcount, hclosed⟩ := h.deliver_next hevents
      have hperipheral := dfuOnBleEvt_peripheralLink hstep
      obtain ⟨rfl, rfl⟩ := Prod.mk.inj (Option.some.inj (hnext.symm.trans (dfuOnBleEvt_sd hstep)))
      refine ⟨life', hlives, hcount, fun htear => ?_⟩
      obtain ⟨htear', hstill⟩ := hclosed htear
      exact ⟨htear', hstill, fun hlink => hperipheral.trans hlink⟩
  · cases hstep
    refine ⟨life.air change, h.air hvalid, Nat.zero_add _, fun htear => ⟨htear, rfl, ?_⟩⟩
    intro hlink
    have hbefore := congrArg LinkView.peripheralLink h.view
    have hafter := congrArg LinkView.peripheralLink (h.air hvalid).view
    exact hafter.trans (Life.air_unlinked (h.tornDown htear) (hbefore.symm.trans hlink) change)
  · have hgap : t'.gap = t.gap := congrArg DfuLink.gap hlink
    have htear : t'.tearDownInProgress = t.tearDownInProgress :=
      congrArg DfuLink.tearDownInProgress hlink
    rw [hdelivered, hstill.count_updateTimeout]
    exact ⟨life, h.of_link hlink, Nat.zero_add _, fun hclosed =>
      ⟨htear.trans hclosed, hstill, fun hdown => by rw [hgap]; exact hdown⟩⟩

/-- The advertisements without an answer at the end of what has been delivered. -/
def unanswered (delivered : List GapEvt) : Nat := delivered.foldl attemptsAfter 0

/-- What a run knows of the link. -/
structure Followed (t : DfuTransport) (delivered : List GapEvt) (calls : List DfuCall) : Prop where
  lives : ∃ life, Lives t life (unanswered delivered)
  count : calls.count .updateTimeout = if unanswered delivered = 50 then 1 else 0

theorem Followed.step (h : Followed t delivered past) (hvalid : event.Valid)
    (hstep : dfuStep t event = some (t', calls)) :
    Followed t' (delivered ++ event.delivered t) (past ++ calls) := by
  obtain ⟨life, hlives⟩ := h.lives
  obtain ⟨life', hlives', hcount, -⟩ := hlives.step hvalid hstep
  have hattempts : unanswered (delivered ++ event.delivered t) =
      (event.delivered t).foldl attemptsAfter (unanswered delivered) := List.foldl_append
  refine ⟨⟨life', hattempts ▸ hlives'⟩, ?_⟩
  rw [List.count_append, h.count, hattempts, ← hcount, Nat.add_comm]

theorem dfuRun_followed
    (hstart : dfuTransportUpdateStart dfuTransportReset blePeerData = some (t, started))
    (hvalid : ∀ event ∈ events, event.Valid)
    (hrun : Runs.run dfuStep t events = some (t', calls)) :
    Followed t' (Runs.observed dfuStep DfuEvent.delivered t events) calls :=
  (Runs.guarded_of_forall (fun _ hevent _ => hvalid _ hevent)).reports (P := Followed)
    (fun _ _ _ _ _ _ h => h.step) [] [] ⟨⟨_, (lives_start hstart).1⟩, rfl⟩ hrun

end

section
variable {t t' : DfuTransport} {past calls : List DfuCall}

/-- The transport has been closed, and has started no advertisement since. -/
structure Closed (t : DfuTransport) (past : List DfuCall) : Prop where
  lives : ∃ life attempts, Lives t life attempts
  tornDown : t.tearDownInProgress = true
  still : Still past

theorem Closed.silent (h : Closed t past) : t.gap.advertising = false := by
  obtain ⟨life, attempts, hlives⟩ := h.lives
  have hquiet := hlives.tornDown h.tornDown
  have hradio := congrArg LinkView.advertising hlives.view
  cases life with
  | connected => exact hradio
  | lost => exact hradio
  | silent => exact hradio
  | _ => exact absurd hquiet id

theorem Closed.step (h : Closed t past) (hvalid : event.Valid)
    (hstep : dfuStep t event = some (t', calls)) :
    Closed t' (past ++ calls) ∧
      (t.gap.peripheralLink = false → t'.gap.peripheralLink = false) := by
  obtain ⟨life, attempts, hlives⟩ := h.lives
  obtain ⟨life', hlives', -, hstays⟩ := hlives.step hvalid hstep
  obtain ⟨htear, hstill, hlink⟩ := hstays h.tornDown
  exact ⟨⟨⟨_, _, hlives'⟩, htear, h.still.append hstill⟩, hlink⟩

theorem Closed.run (h : Closed t past) (hvalid : ∀ event ∈ events, event.Valid)
    (hrun : Runs.run dfuStep t events = some (t', calls)) :
    Closed t' (past ++ calls) ∧
      (t.gap.peripheralLink = false → t'.gap.peripheralLink = false) := by
  refine (Runs.guarded_of_forall fun _ hevent _ => hvalid _ hevent).invariant
    (P := fun s calls => Closed s calls ∧
      (t.gap.peripheralLink = false → s.gap.peripheralLink = false))
    (fun _ _ _ _ _ hbefore hvalid hstep => ?_) past ⟨h, id⟩ hrun
  obtain ⟨hclosed, hlink⟩ := hbefore.1.step hvalid hstep
  exact ⟨hclosed, fun hdown => hlink (hbefore.2 hdown)⟩

/-- From the step on that closes the transport, whatever happens before, between
and after: it starts no advertisement, and when the link is gone the radio
stays silent. -/
theorem dfuRun_closed
    (hstart : dfuTransportUpdateStart dfuTransportReset blePeerData = some (t, started))
    (hvalid : ∀ event ∈ before ++ (between ++ after), event.Valid)
    (hbefore : Runs.run dfuStep t before = some (t₁, calls₁))
    (hcloses : event.closes = true) (hclose : dfuStep t₁ event = some (t₂, closing))
    (hbetween : Runs.run dfuStep t₂ between = some (t₃, calls₃))
    (hafter : Runs.run dfuStep t₃ after = some (t', calls)) :
    t'.tearDownInProgress = true ∧ t'.gap.advertising = false ∧
      (∀ params, .advStart params ∉ closing ++ calls₃ ++ calls) ∧
      (t₃.gap.peripheralLink = false → t'.gap.peripheralLink = false) := by
  obtain ⟨hvalid₁, hvalid⟩ := List.forall_mem_append.mp hvalid
  obtain ⟨hvalid₃, hvalid'⟩ := List.forall_mem_append.mp hvalid
  obtain ⟨⟨life₁, hlives₁⟩, -⟩ := dfuRun_followed hstart hvalid₁ hbefore
  obtain ⟨-, sd, closed, rest, hclosed, rfl, hrest⟩ := dfuStep_closes hcloses hclose
  obtain ⟨life₂, hlives₂, htear₂, hstill₂, -⟩ := hlives₁.close hclosed
  have h₂ : Closed t₂ (closed ++ rest) := ⟨⟨_, _, hlives₂⟩, htear₂, hstill₂.append hrest⟩
  obtain ⟨h₃, -⟩ := h₂.run hvalid₃ hbetween
  obtain ⟨h', hlink⟩ := h₃.run hvalid' hafter
  exact ⟨h'.tornDown, h'.silent,
    fun params hmem => List.filter_eq_nil_iff.mp h'.still _ hmem rfl, hlink⟩

end

def closedLink : List DfuEvent := [.air (.linkPeripheral 7), .deliver nrfSuccess]

theorem dfuRun_closed_closedLink : ∃ t₁ calls₁ t₂ closing t₃ calls₃ t' calls,
    Runs.run dfuStep openTransport closedLink = some (t₁, calls₁) ∧
      dfuStep t₁ (.close nrfSuccess) = some (t₂, closing) ∧
      Runs.run dfuStep t₂ [.air .unlinkPeripheral] = some (t₃, calls₃) ∧
      Runs.run dfuStep t₃ [.deliver nrfSuccess] = some (t', calls) ∧
      t'.gap.advertising = false ∧ ∀ params, .advStart params ∉ closing ++ calls₃ ++ calls := by
  have hsome : (Runs.run dfuStep openTransport (closedLink ++ .close nrfSuccess ::
      ([.air .unlinkPeripheral] ++ [.deliver nrfSuccess]))).isSome = true := by decide +kernel
  obtain ⟨⟨t', all⟩, hrun⟩ := Option.isSome_iff_exists.mp hsome
  obtain ⟨t₁, calls₁, later, hbefore, hlater, -⟩ := Runs.run_append_eq_some.mp hrun
  obtain ⟨t₂, closing, later, hclose, hlater, -⟩ := Runs.run_cons_eq_some.mp hlater
  obtain ⟨t₃, calls₃, calls, hbetween, hafter, -⟩ := Runs.run_append_eq_some.mp hlater
  obtain ⟨-, hradio, hcalls, -⟩ :=
    dfuRun_closed openTransport_start (by decide) hbefore rfl hclose hbetween hafter
  exact ⟨t₁, calls₁, t₂, closing, t₃, calls₃, t', calls, hbefore, hclose, hbetween, hafter,
    hradio, hcalls⟩

end WaterBall
