import WaterBall.Radio.Mirroring

/-!
# The two kinds of devices

BUTTON_1 at the start decides whether a device advertises or looks for one that
does, and it stays what it is: the one never scans, the other never advertises,
in whatever order the events of the link arrive. The one that advertises is
never reset.
-/

namespace WaterBall

open Support

-- ---------------------------------------------------------------------------
-- Besides the flags
-- ---------------------------------------------------------------------------

/-- The functions that the main loop runs, with BUTTON_1 as it is while the
modules start. -/
def RadioEvent.InLoop (button1 : Bool) (r : Radio) : RadioEvent → Prop
  | .main (.advertiseTasks button) => r.advertiseState = .init → button = button1
  | .main (.discoveryTasks button _) => r.discoveryState = .init → button = button1
  | .main .connectTasks => True
  | .main .storagePause => True
  | .main _ => False
  | _ => True

instance (button1 : Bool) (r : Radio) :
    (event : RadioEvent) → Decidable (event.InLoop button1 r)
  | .main (.advertiseTasks button) =>
    inferInstanceAs (Decidable (r.advertiseState = .init → button = button1))
  | .main (.discoveryTasks button _) =>
    inferInstanceAs (Decidable (r.discoveryState = .init → button = button1))
  | .main .connectTasks | .main .storagePause => isTrue trivial
  | .main (.connectConnect _) | .main .advertiseCancel | .main .discoveryCancel
  | .main .connectCancel => isFalse id
  | .storageResume _ | .deliver | .air _ => isTrue trivial

/-- The modes of the modules, and the role of the link. -/
def Radio.modes (r : Radio) : AdvertiseState × DiscoveryState × Option Bool × GapRole :=
  (r.advertiseState, r.discoveryState, r.storing, r.role)

/-- What a step makes of them, and its calls. -/
structure ModesStep (button1 : Bool) (r r' : Radio) (calls : List RadioCall) : Prop where
  advertise : r'.advertiseState = r.advertiseState ∨ r'.advertiseState = .ready ∨
    (button1 = true ∧ r'.advertiseState = .advertising)
  discovery : r'.discoveryState = r.discoveryState ∨ r'.discoveryState = .ready ∨
    (button1 = false ∧ r'.discoveryState = .discovering)
  storing : r'.storing = some true → r.storing = some true ∨ r.isDiscovering = true
  role : r'.role = r.role ∨ r'.role = .invalid ∨
    ∃ connHandle rest, r.gap.events = .connected r'.role connHandle :: rest
  calls : calls ≠ [] → ∃ connHandle rest, r.gap.events = .connected .central connHandle :: rest

section
variable {r r' : Radio} {calls : List RadioCall} {button1 : Bool}

theorem ModesStep.of_modes (h : r'.modes = r.modes) : ModesStep button1 r r' [] := by
  obtain ⟨hadvertise, hdiscovery, hstoring, hrole⟩ := Prod.mk.inj h |>.imp id fun h =>
    Prod.mk.inj h |>.imp id Prod.mk.inj
  exact ⟨.inl hadvertise, .inl hdiscovery, fun h => .inl (hstoring ▸ h), .inl hrole,
    fun h => absurd rfl h⟩

theorem advertiseCancel_modes (r : Radio) : (advertiseCancel r).modes = r.modes := by
  unfold advertiseCancel
  split <;> rfl

theorem discoveryCancel_modes (r : Radio) : (discoveryCancel r).modes = r.modes := by
  unfold discoveryCancel
  split <;> rfl

theorem connectCancel_modes (h : connectCancel r = .ok r') : r'.modes = r.modes := by
  rw [connectCancel_eq] at h
  split at h
  · split at h
    · cases h
      rfl
    · cases h
  · cases h
    rfl

theorem connectConnect_modes {address : GapAddr} {result : Bool}
    (h : connectConnect r address = .ok (result, r')) : r'.modes = r.modes := by
  rw [connectConnect_eq] at h
  split at h
  · cases h
    rfl
  · cases hcancel : connectCancel (discoveryCancel (advertiseCancel r)) with
    | error call =>
      rw [hcancel] at h
      cases h
    | ok r₁ =>
      rw [hcancel] at h
      simp only [bind, Except.bind] at h
      split at h
      · cases h
      · cases h
        exact (connectCancel_modes hcancel).trans
          ((discoveryCancel_modes _).trans (advertiseCancel_modes r))

theorem discoveryDiscovery_modes (r : Radio) (refusal : UInt32) :
    (discoveryDiscovery r refusal).2.modes = r.modes := by
  rw [discoveryDiscovery_eq]
  split <;> rfl

theorem advertiseTasks_modes {button : Bool} (hloop : r.advertiseState = .init → button = button1)
    (h : advertiseTasks r button = .ok r') : ModesStep button1 r r' [] := by
  by_cases hstart : r.advertiseState = .advertising ∧ r.isIdle = true
  · rw [advertiseTasks_idle hstart.1 hstart.2] at h
    split at h
    · cases h
    · cases h
      exact .of_modes rfl
  unfold advertiseTasks at h
  split at h
  case h_1 hinit =>
    cases h
    have hmode : (if button = true then AdvertiseState.advertising else .ready) = .ready ∨
        (button1 = true ∧ (if button = true then AdvertiseState.advertising else .ready) =
          .advertising) := by
      rw [← hloop hinit]
      cases button
      · exact .inl rfl
      · exact .inr ⟨rfl, rfl⟩
    exact ⟨.inr hmode, .inl rfl, .inl, .inl rfl, fun h => absurd rfl h⟩
  case h_3 hstate =>
    rw [if_neg fun hidle => hstart ⟨hstate, hidle⟩] at h
    cases h
    exact .of_modes rfl
  all_goals
    cases h
    exact .of_modes rfl

theorem discoveryTasks_modes {button : Bool} (hloop : r.discoveryState = .init → button = button1)
    (refusal : UInt32) : ModesStep button1 r (discoveryTasks r button refusal) [] := by
  unfold discoveryTasks
  split
  case h_1 hinit =>
    have hmode : (if (!button) = true then DiscoveryState.discovering else .ready) = .ready ∨
        (button1 = false ∧ (if (!button) = true then DiscoveryState.discovering else .ready) =
          .discovering) := by
      rw [← hloop hinit]
      cases button
      · exact .inr ⟨rfl, rfl⟩
      · exact .inl rfl
    exact ⟨.inl rfl, .inr hmode, .inl, .inl rfl, fun h => absurd rfl h⟩
  case h_3 =>
    split
    · exact .of_modes (discoveryDiscovery_modes r refusal)
    · exact .of_modes rfl
  all_goals exact .of_modes rfl

theorem storagePause_modes (h : storagePause r = .ok r') : ModesStep button1 r r' [] := by
  rw [storagePause_eq] at h
  cases hcancel : connectCancel r with
  | error call =>
    rw [hcancel] at h
    cases h
  | ok r₁ =>
    rw [hcancel] at h
    cases h
    obtain ⟨hadvertise, hdiscovery, -, hrole, -⟩ : ModesStep button1 r (discoveryCancel r₁) [] :=
      .of_modes ((discoveryCancel_modes r₁).trans (connectCancel_modes hcancel))
    have hflags := (connectCancel_ok hcancel).2.1
    have hsame : r₁.isDiscovering = r.isDiscovering := congrArg Flags.discovering hflags
    refine ⟨hadvertise, hdiscovery, fun h => .inr ?_, hrole, fun h => absurd rfl h⟩
    rw [← hsame]
    exact Option.some.inj h

theorem bleEvtDispatch_modes {evt : GapEvt} {rest : List GapEvt}
    (hevents : r.gap.events = evt :: rest)
    (h : bleEvtDispatch { r with gap.events := rest } evt = .ok (r', calls)) :
    ModesStep button1 r r' calls := by
  cases evt with
  | connected role connHandle =>
    rw [bleEvtDispatch_connected] at h
    cases h
    have hmodes := advertiseCancel_modes
      (connectOnBleEvt { r with gap.events := rest } (.connected role connHandle)).1
    obtain ⟨hadvertise, hdiscovery, hstoring, hrole⟩ := Prod.mk.inj hmodes |>.imp id fun h =>
      Prod.mk.inj h |>.imp id Prod.mk.inj
    refine ⟨.inl hadvertise, .inl hdiscovery, fun h => .inl (hstoring ▸ h),
      .inr (.inr ⟨connHandle, rest, ?_⟩), fun hcalls => ⟨connHandle, rest, ?_⟩⟩
    · rw [hevents, hrole]
      rfl
    · rw [hevents]
      by_cases hrole : role = .central
      · rw [hrole]
      · refine absurd ?_ hcalls
        have hother : (role == .central) = false := beq_eq_false_iff_ne.mpr hrole
        exact if_neg (Bool.eq_false_iff.mp hother)
  | disconnected =>
    cases h
    exact ⟨.inl rfl, .inl rfl, .inl, .inr (.inl rfl), fun h => absurd rfl h⟩
  | timeout src =>
    cases src <;> cases h <;> exact .of_modes rfl
  | advReport report =>
    rw [bleEvtDispatch_advReport] at h
    split at h
    · cases hconnect : connectConnect { r with gap.events := rest } report.peerAddr with
      | error call =>
        rw [hconnect] at h
        cases h
      | ok result =>
        rw [hconnect] at h
        cases h
        have hmodes := connectConnect_modes hconnect
        exact .of_modes hmodes
    · cases h
      exact .of_modes rfl

theorem radioTask_modes {task : RadioTask} (hloop : RadioEvent.InLoop button1 r (.main task))
    (h : radioTask r task = .ok r') : ModesStep button1 r r' [] := by
  cases task with
  | advertiseTasks button => exact advertiseTasks_modes hloop h
  | discoveryTasks button refusal =>
    cases h
    exact discoveryTasks_modes hloop refusal
  | connectTasks =>
    cases h
    refine .of_modes ?_
    unfold connectTasks
    split <;> rfl
  | storagePause => exact storagePause_modes h
  | connectConnect | advertiseCancel | discoveryCancel | connectCancel => exact hloop.elim

theorem radioStep_modes {event : RadioEvent} (hloop : event.InLoop button1 r)
    (h : radioStep r event = .ok (r', calls)) : ModesStep button1 r r' calls := by
  cases event with
  | main task =>
    cases hfree : r.storing with
    | some wasDiscovering =>
      rw [radioStep, hfree] at h
      cases h
      exact .of_modes rfl
    | none =>
      rw [radioStep, hfree] at h
      cases htask : radioTask r task with
      | error call =>
        rw [htask] at h
        cases h
      | ok r₁ =>
        rw [htask] at h
        cases h
        exact radioTask_modes hloop htask
  | storageResume refusal =>
    rw [radioStep] at h
    split at h
    case h_1 wasDiscovering hwas =>
      cases h
      obtain ⟨hadvertise, hdiscovery, -, hrole, -⟩ :
          ModesStep button1 r
            (if wasDiscovering then (discoveryDiscovery r refusal).2 else r) [] := by
        cases wasDiscovering with
        | false => exact .of_modes rfl
        | true => exact .of_modes (discoveryDiscovery_modes r refusal)
      refine ⟨hadvertise, hdiscovery, fun h => ?_, hrole, fun h => absurd rfl h⟩
      cases h
    case h_2 =>
      cases h
      exact .of_modes rfl
  | deliver =>
    rw [radioStep] at h
    split at h
    case h_1 =>
      cases h
      exact .of_modes rfl
    case h_2 evt rest hevents => exact bleEvtDispatch_modes hevents h
  | air change =>
    cases h
    exact .of_modes rfl

end

-- ---------------------------------------------------------------------------
-- A device that advertises
-- ---------------------------------------------------------------------------

/-- The events that end the advertising. -/
def GapEvt.endsAdvertising : GapEvt → Bool
  | .connected _ _ => true
  | .timeout .advertising => true
  | _ => false

/-- The events of a link in the role of the peripheral. -/
def GapEvt.ofPeripheral : GapEvt → Bool
  | .connected role _ => role == .periph
  | .advReport _ => false
  | _ => true

/-- Nothing but advertising and its link goes on, and the flags follow event by
event. -/
structure Advertises (f : Flags) (g : Gap) : Prop where
  discovering : f.discovering = false
  connecting : f.connecting = false
  scanning : g.scanning = false
  attempt : g.connecting = none
  central : g.centralLink = false
  events : ∀ evt ∈ g.events, evt.ofPeripheral = true
  ends : g.events.countP GapEvt.endsAdvertising + g.advertising.toNat = f.advertising.toNat
  apart : g.advertising = true → g.peripheralLink = false
  links : Mirror.Switches f.connected g.links g.peripheralLink

/-- A device that advertises. -/
structure Radio.Peripheral (r : Radio) : Prop where
  discovery : r.discoveryState ≠ .discovering
  storing : r.storing ≠ some true
  role : r.role ≠ .central
  radio : Advertises r.flags r.gap

theorem peripheral_boot : radioBoot.Peripheral where
  discovery := by decide
  storing := by decide
  role := by decide
  radio :=
    { discovering := rfl
      connecting := rfl
      scanning := rfl
      attempt := rfl
      central := rfl
      events := by decide
      ends := rfl
      apart := fun _ => rfl
      links := rfl }

section
variable {f : Flags} {g : Gap}

/-- Without the flags there is no link and no advertising. -/
theorem Advertises.idle (h : Advertises f g) (hadv : f.advertising = false)
    (hconn : f.connected = false) :
    g.events.countP GapEvt.endsAdvertising = 0 ∧ g.advertising = false ∧
      g.peripheralLink = false := by
  have hends := h.ends
  have hlinks := h.links
  rw [hadv] at hends
  rw [hconn] at hlinks
  obtain ⟨hnone, hadvertising⟩ := Nat.add_eq_zero_iff.mp hends
  have hunlinked : true ∉ g.links := by
    intro htrue
    obtain ⟨evt, hevt, hlink⟩ := List.mem_filterMap.mp htrue
    have hend : evt.endsAdvertising = true := by
      cases evt with
      | connected => rfl
      | _ => cases hlink
    exact List.countP_eq_zero.mp hnone evt hevt hend
  exact ⟨hnone, Bool.toNat_eq_zero.mp hadvertising, (hlinks.eq_nil hunlinked).2.symm⟩

theorem Advertises.events_queue (h : Advertises f g) {g' : Gap} (hsame : g'.events = g.events)
    {evt : GapEvt} (hevt : evt.ofPeripheral = true) :
    ∀ evt' ∈ (g'.queue evt).events, evt'.ofPeripheral = true := fun evt' hevt' =>
  (Gap.mem_queue.mp hevt').elim (fun hmem => h.events evt' (hsame ▸ hmem)) fun heq => heq ▸ hevt

theorem Gap.countP_queue (g : Gap) (evt : GapEvt) :
    (g.queue evt).events.countP GapEvt.endsAdvertising =
      g.events.countP GapEvt.endsAdvertising + evt.endsAdvertising.toNat := by
  rw [Gap.queue, List.countP_append, List.countP_singleton]
  cases evt.endsAdvertising <;> rfl

theorem Advertises.linkPeripheral (h : Advertises f g) (ha : g.advertising = true)
    (connHandle : UInt16) :
    Advertises f ({ g with advertising := false, peripheralLink := true }.queue
      (.connected .periph connHandle)) where
  discovering := h.discovering
  connecting := h.connecting
  scanning := h.scanning
  attempt := h.attempt
  central := h.central
  events := h.events_queue rfl rfl
  ends := by
    rw [Gap.countP_queue, ← h.ends, ha]
    rfl
  apart := nofun
  links := by
    have hlinks := h.links
    rw [h.apart ha] at hlinks
    rw [Gap.links_queue]
    exact hlinks.concat

theorem Advertises.unlink (h : Advertises f g) (hl : g.peripheralLink = true) :
    Advertises f ({ g with peripheralLink := false }.queue .disconnected) where
  discovering := h.discovering
  connecting := h.connecting
  scanning := h.scanning
  attempt := h.attempt
  central := h.central
  events := h.events_queue rfl rfl
  ends := by
    rw [Gap.countP_queue, ← h.ends]
    rfl
  apart := fun _ => rfl
  links := by
    have hlinks := h.links
    rw [hl] at hlinks
    rw [Gap.links_queue]
    exact hlinks.concat

theorem Advertises.timeout (h : Advertises f g) (ha : g.advertising = true) :
    Advertises f ({ g with advertising := false }.queue (.timeout .advertising)) where
  discovering := h.discovering
  connecting := h.connecting
  scanning := h.scanning
  attempt := h.attempt
  central := h.central
  events := h.events_queue rfl rfl
  ends := by
    rw [Gap.countP_queue, ← h.ends, ha]
    rfl
  apart := nofun
  links := by
    rw [Gap.links_queue]
    exact (List.append_nil g.links).symm ▸ h.links

theorem Advertises.securityTimeout (h : Advertises f g) :
    Advertises f (g.queue (.timeout .securityRequest)) :=
  { h with
    events := h.events_queue rfl rfl
    ends := by
      rw [Gap.countP_queue, ← h.ends]
      rfl
    links := by
      rw [Gap.links_queue]
      exact (List.append_nil g.links).symm ▸ h.links }

theorem Advertises.air (h : Advertises f g) (change : GapChange) :
    Advertises f (gapStep g change) := by
  have hidle : ¬ g.connecting.isSome = true := by rw [h.attempt]; decide
  cases change with
  | report report => rwa [gapStep, if_neg (Bool.eq_false_iff.mp h.scanning)]
  | linkCentral connHandle => rwa [gapStep, if_neg hidle]
  | linkPeripheral connHandle =>
    unfold gapStep
    dsimp only
    split
    case isTrue ha => exact h.linkPeripheral ha connHandle
    case isFalse => exact h
  | unlinkCentral => rwa [gapStep, if_neg (Bool.eq_false_iff.mp h.central)]
  | unlinkPeripheral =>
    unfold gapStep
    dsimp only
    split
    case isTrue hl => exact h.unlink hl
    case isFalse => exact h
  | timeout src =>
    cases src with
    | advertising =>
      unfold gapStep
      dsimp only
      split
      case isTrue ha => exact h.timeout ha
      case isFalse => exact h
    | securityRequest => exact h.securityTimeout
    | scan =>
      unfold gapStep
      dsimp only
      rwa [if_neg (Bool.eq_false_iff.mp h.scanning)]
    | conn =>
      unfold gapStep
      dsimp only
      rwa [if_neg hidle]

/-- The oldest event is delivered. -/
theorem Advertises.take (h : Advertises f g) {evt : GapEvt} {rest : List GapEvt}
    (hevents : g.events = evt :: rest) :
    Advertises (f.take evt) (Gap.afterEvt { g with events := rest } f evt) := by
  have hrest : ∀ evt' ∈ rest, evt'.ofPeripheral = true := fun evt' hevt' =>
    h.events evt' (hevents ▸ List.mem_cons_of_mem evt hevt')
  have hends := h.ends
  have hlinks := h.links
  rw [hevents, List.countP_cons] at hends
  rw [Gap.links_cons hevents] at hlinks
  cases evt with
  | connected role connHandle =>
    have hle := f.advertising.toNat_le
    simp only [GapEvt.endsAdvertising, if_true] at hends
    have hadv : g.advertising = false := Bool.toNat_eq_zero.mp (by omega)
    have hnone : rest.countP GapEvt.endsAdvertising = 0 := by omega
    exact
      { discovering := h.discovering
        connecting := rfl
        scanning := h.scanning
        attempt := h.attempt
        central := h.central
        events := hrest
        ends := by
          simp only [Gap.afterEvt, Flags.take, hadv, hnone]
          rfl
        apart := fun ha => by
          simp only [Gap.afterEvt, hadv, Bool.false_and, Bool.false_eq_true] at ha
        links := hlinks.2 }
  | disconnected => exact { h with events := hrest, ends := hends, links := hlinks.2 }
  | timeout src =>
    cases src with
    | advertising =>
      have hle := f.advertising.toNat_le
      simp only [GapEvt.endsAdvertising, if_true] at hends
      have hadv : g.advertising = false := Bool.toNat_eq_zero.mp (by omega)
      have hnone : rest.countP GapEvt.endsAdvertising = 0 := by omega
      refine { h with events := hrest, ends := ?_, links := hlinks }
      simp only [Gap.afterEvt, Flags.take, hadv, hnone]
      rfl
    | securityRequest => exact { h with events := hrest, ends := hends, links := hlinks }
    | scan =>
      exact { h with discovering := rfl, events := hrest, ends := hends, links := hlinks }
    | conn =>
      exact { h with connecting := rfl, events := hrest, ends := hends, links := hlinks }
  | advReport report => cases h.events _ (hevents ▸ List.mem_cons_self)

end

section
variable {r r' : Radio} {calls : List RadioCall}

theorem Radio.Peripheral.idle (h : r.Peripheral) (hidle : r.isIdle = true) :
    r.gap.advertising = false ∧ r.gap.peripheralLink = false := by
  have hflags := (isIdle_iff r).mp hidle
  exact (h.radio.idle (congrArg Flags.advertising hflags) (congrArg Flags.connected hflags)).2

theorem Radio.Peripheral.task (h : r.Peripheral) {task : RadioTask}
    (hloop : RadioEvent.InLoop true r (.main task)) (hok : radioTask r task = .ok r') :
    Advertises r'.flags r'.gap := by
  cases task with
  | advertiseTasks button =>
    rcases advertiseTasks_ok hok with ⟨hflags, hgap⟩ | ⟨-, hidle, hlink, hflags, hgap⟩
    · rw [hflags, hgap]
      exact h.radio
    · have hclear := (isIdle_iff r).mp hidle
      have hlinks := h.radio.links
      obtain ⟨hnone, -⟩ := h.radio.idle (congrArg Flags.advertising hclear)
        (congrArg Flags.connected hclear)
      rw [congrArg Flags.connected hclear] at hlinks
      rw [hflags, hgap]
      exact
        { h.radio with
          discovering := rfl
          connecting := rfl
          ends := by rw [hnone]; rfl
          apart := fun _ => hlink
          links := hlinks }
  | discoveryTasks button refusal =>
    cases hok
    rcases discoveryTasks_flags r button refusal with ⟨hflags, hgap⟩ | ⟨hstate, -⟩
    · rw [hflags, hgap]
      exact h.radio
    · exact absurd hstate h.discovery
  | connectTasks =>
    cases hok
    unfold connectTasks
    split <;> exact h.radio
  | storagePause =>
    obtain ⟨r₁, hcancel, hflags, hgap⟩ := storagePause_ok hok
    have hclear : ¬ r.isConnecting = true := Bool.eq_false_iff.mp h.radio.connecting
    rw [connectCancel_eq, if_neg hclear] at hcancel
    cases hcancel
    have hradio := h.radio
    rw [hflags, hgap]
    exact
      { hradio with
        discovering := rfl
        scanning := by
          dsimp only
          rw [hradio.scanning, Bool.false_and] }
  | connectConnect | advertiseCancel | discoveryCancel | connectCancel => exact hloop.elim

theorem Radio.Peripheral.radioStep (h : r.Peripheral) {event : RadioEvent}
    (hloop : event.InLoop true r) (hok : radioStep r event = .ok (r', calls)) :
    Advertises r'.flags r'.gap := by
  cases event with
  | main task =>
    cases hfree : r.storing with
    | some wasDiscovering =>
      rw [WaterBall.radioStep, hfree] at hok
      cases hok
      exact h.radio
    | none =>
      rw [WaterBall.radioStep, hfree] at hok
      cases htask : radioTask r task with
      | error call =>
        rw [htask] at hok
        cases hok
      | ok r₁ =>
        rw [htask] at hok
        cases hok
        exact h.task hloop htask
  | storageResume refusal =>
    rw [WaterBall.radioStep] at hok
    split at hok
    case h_1 wasDiscovering hwas =>
      cases hok
      cases wasDiscovering with
      | false => exact h.radio
      | true => exact absurd hwas h.storing
    case h_2 =>
      cases hok
      exact h.radio
  | deliver =>
    rw [WaterBall.radioStep] at hok
    split at hok
    case h_1 =>
      cases hok
      exact h.radio
    case h_2 evt rest hevents =>
      rcases bleEvtDispatch_ok hok with ⟨hflags, hgap⟩ | ⟨report, rfl, -, -⟩
      · rw [hflags, hgap]
        exact h.radio.take hevents
      · cases h.radio.events _ (hevents ▸ List.mem_cons_self)
  | air change =>
    cases hok
    exact h.radio.air change

theorem Radio.Peripheral.step (h : r.Peripheral) {event : RadioEvent}
    (hloop : event.InLoop true r) (hok : WaterBall.radioStep r event = .ok (r', calls)) :
    r'.Peripheral ∧ calls = [] := by
  have hmodes := radioStep_modes hloop hok
  have hhead {role : GapRole} {connHandle : UInt16} {rest : List GapEvt}
      (hevents : r.gap.events = .connected role connHandle :: rest) : role = .periph := by
    have hevt := h.radio.events (.connected role connHandle) (hevents ▸ List.mem_cons_self)
    exact beq_iff_eq.mp hevt
  refine ⟨⟨?_, ?_, ?_, h.radioStep hloop hok⟩, ?_⟩
  · rcases hmodes.discovery with hsame | hready | ⟨hbutton, -⟩
    · exact hsame ▸ h.discovery
    · rw [hready]
      decide
    · cases hbutton
  · intro hstoring
    rcases hmodes.storing hstoring with hsame | hdiscovering
    · exact h.storing hsame
    · exact Bool.eq_false_iff.mp h.radio.discovering hdiscovering
  · rcases hmodes.role with hsame | hinvalid | ⟨connHandle, rest, hevents⟩
    · exact hsame ▸ h.role
    · rw [hinvalid]
      decide
    · rw [hhead hevents]
      decide
  · by_contra hcalls
    obtain ⟨connHandle, rest, hevents⟩ := hmodes.calls hcalls
    cases hhead hevents

end

def GapEvt.ofCentral : GapEvt → Bool
  | .connected role _ => role == .central
  | _ => true

/-- There is no advertising and no link that comes from it, and an attempt is
for the only link. -/
structure Searches (f : Flags) (g : Gap) : Prop where
  flag : f.advertising = false
  advertising : g.advertising = false
  peripheral : g.peripheralLink = false
  events : ∀ evt ∈ g.events, evt.ofCentral = true
  attempt : g.connecting.isSome = true → g.centralLink = false
  links : Mirror.Switches f.connected g.links g.centralLink

structure Radio.Central (r : Radio) : Prop where
  advertise : r.advertiseState ≠ .advertising
  role : r.role ≠ .periph
  radio : Searches r.flags r.gap

section
variable {f : Flags} {g : Gap}

theorem Searches.scanStart (h : Searches f g) (refusal : UInt32) (hflag : f'.advertising = false)
    (hconnected : f'.connected = f.connected) : Searches f' (sdBleGapScanStart g refusal).1 := by
  have hlinks := h.links
  rw [← hconnected] at hlinks
  unfold sdBleGapScanStart
  split
  · exact { h with flag := hflag, links := hlinks }
  split
  · exact { h with flag := hflag, links := hlinks }
  · exact { h with flag := hflag, links := hlinks }

/-- An attempt begins, with no link there. -/
theorem Searches.attempts {r r' : Radio} {address : GapAddr} (h : Searches r.flags r.gap)
    (hattempts : Attempts r r' address) (hfree : r.gap.centralLink = false) :
    Searches r'.flags r'.gap := by
  have hlinks := h.links
  rw [flags_connected, hattempts.connected] at hlinks
  rw [hattempts.flags, hattempts.gap]
  refine { h with flag := rfl, advertising := ?_, attempt := fun _ => hfree, links := hlinks }
  dsimp only
  rw [h.advertising, Bool.false_and]

theorem Searches.events_queue (h : Searches f g) {g' : Gap} (hsame : g'.events = g.events)
    {evt : GapEvt} (hevt : evt.ofCentral = true) :
    ∀ evt' ∈ (g'.queue evt).events, evt'.ofCentral = true := fun evt' hevt' =>
  (Gap.mem_queue.mp hevt').elim (fun hmem => h.events evt' (hsame ▸ hmem)) fun heq => heq ▸ hevt

/-- An event that is not about the link, and the end of an attempt or a scan. -/
theorem Searches.queue (h : Searches f g) {evt : GapEvt} (hlink : evt.link = none)
    (hevt : evt.ofCentral = true) (scanning : Bool) {attempt : Option GapAddr}
    (hattempt : attempt = none ∨ attempt = g.connecting) :
    Searches f ({ g with scanning, connecting := attempt }.queue evt) :=
  { h with
    events := h.events_queue rfl hevt
    attempt := fun hs => by
      rcases hattempt with rfl | rfl
      · cases hs
      · exact h.attempt hs
    links := by
      rw [Gap.links_queue, hlink]
      exact (List.append_nil g.links).symm ▸ h.links }

theorem Searches.linkCentral (h : Searches f g) (hs : g.connecting.isSome = true)
    (connHandle : UInt16) :
    Searches f ({ g with connecting := none, centralLink := true }.queue
      (.connected .central connHandle)) :=
  { h with
    events := h.events_queue rfl rfl
    attempt := nofun
    links := by
      have hlinks := h.links
      rw [h.attempt hs] at hlinks
      rw [Gap.links_queue]
      exact hlinks.concat }

theorem Searches.unlinkCentral (h : Searches f g) (hl : g.centralLink = true) :
    Searches f ({ g with centralLink := false }.queue .disconnected) :=
  { h with
    events := h.events_queue rfl rfl
    attempt := fun _ => rfl
    links := by
      have hlinks := h.links
      rw [hl] at hlinks
      rw [Gap.links_queue]
      exact hlinks.concat }

theorem Searches.air (h : Searches f g) (change : GapChange) : Searches f (gapStep g change) := by
  have hstep := gapStep_spec g change
  generalize gapStep g change = g' at hstep ⊢
  cases hstep with
  | idle => exact h
  | linkPeripheral connHandle ha => cases ha.symm.trans h.advertising
  | unlinkPeripheral hl => cases hl.symm.trans h.peripheral
  | advertisingTimeout ha => cases ha.symm.trans h.advertising
  | linkCentral connHandle hs => exact h.linkCentral hs connHandle
  | unlinkCentral hl => exact h.unlinkCentral hl
  | connTimeout => exact h.queue rfl rfl g.scanning (.inl rfl)
  | report | scanTimeout | securityTimeout => exact h.queue rfl rfl _ (.inr rfl)

theorem Searches.take (h : Searches f g) {evt : GapEvt} {rest : List GapEvt}
    (hevents : g.events = evt :: rest) :
    Searches (f.take evt) (Gap.afterEvt { g with events := rest } f evt) := by
  have hrest : ∀ evt' ∈ rest, evt'.ofCentral = true := fun evt' hevt' =>
    h.events evt' (hevents ▸ List.mem_cons_of_mem evt hevt')
  have hlinks := h.links
  rw [Gap.links_cons hevents] at hlinks
  cases evt with
  | connected role connHandle =>
    refine { h with flag := rfl, advertising := ?_, events := hrest, links := hlinks.2 }
    simp only [Gap.afterEvt, h.advertising, Bool.false_and]
  | disconnected => exact { h with events := hrest, links := hlinks.2 }
  | timeout src =>
    cases src with
    | advertising => exact { h with flag := rfl, events := hrest, links := hlinks }
    | _ => exact { h with events := hrest, links := hlinks }
  | advReport => exact { h with events := hrest, links := hlinks }

end

section
variable {r r' : Radio} {calls : List RadioCall} {event : RadioEvent}

theorem Searches.cancel (h : Searches r.flags r.gap) (hcancel : connectCancel r = .ok r') :
    Searches r'.flags r'.gap := by
  obtain ⟨-, hflags, hgap⟩ := connectCancel_ok hcancel
  rw [hflags, hgap]
  split
  · exact { h with attempt := nofun }
  · exact { h with }

/-- The SoftDevice refuses an attempt beside a link. -/
theorem connectConnect_unlinked {address : GapAddr} {result : Bool}
    (h : connectConnect r address = .ok (result, r')) (hconnected : r.isConnected = false) :
    r.gap.centralLink = false := by
  rw [connectConnect_eq, hconnected, if_neg Bool.false_ne_true] at h
  cases hcancel : connectCancel (discoveryCancel (advertiseCancel r)) with
  | error call =>
    rw [hcancel] at h
    cases h
  | ok r₁ =>
    have hgap := (connectCancel_ok hcancel).2.2
    rw [discoveryCancel_gap, advertiseCancel_gap] at hgap
    have hsame : r₁.gap.centralLink = r.gap.centralLink := by
      rw [hgap]
      split <;> rfl
    rw [hcancel] at h
    simp only [bind, Except.bind] at h
    split at h
    · cases h
    case isFalse hfree =>
      rw [← hsame]
      exact (Bool.or_eq_false_iff.mp (Bool.not_eq_true _ ▸ hfree)).2

theorem central_boot : radioBoot.Central where
  advertise := by decide
  role := by decide
  radio :=
    { flag := rfl
      advertising := rfl
      peripheral := rfl
      events := by decide
      attempt := nofun
      links := rfl }

theorem Radio.Central.found (h : r.Central) {report : AdvReport} {rest : List GapEvt}
    (hevents : r.gap.events = .advReport report :: rest)
    (hmatch : (discoveryMatches report).1 = true) (hok : radioStep r .deliver = .ok (r', calls))
    (hattempts : Attempts { r with gap.events := rest } r' report.peerAddr) :
    Searches r'.flags r'.gap := by
  have hlinks := h.radio.links
  rw [Gap.links_cons hevents] at hlinks
  have hpopped : Searches (Radio.flags { r with gap.events := rest })
      { r.gap with events := rest } :=
    { h.radio with
      events := fun evt hevt => h.radio.events evt (hevents ▸ List.mem_cons_of_mem _ hevt)
      links := hlinks }
  rw [radioStep, hevents] at hok
  dsimp only at hok
  rw [bleEvtDispatch_advReport, if_pos hmatch] at hok
  cases hconnect : connectConnect { r with gap.events := rest } report.peerAddr with
  | error call =>
    rw [hconnect] at hok
    cases hok
  | ok result =>
    exact hpopped.attempts hattempts (connectConnect_unlinked hconnect hattempts.connected)

theorem Radio.Central.move (h : r.Central) (hloop : event.InLoop false r)
    (hok : radioStep r event = .ok (r', calls)) : Searches r'.flags r'.gap := by
  have hradio := h.radio
  have hmove := radioStep_move hok
  cases hmove with
  | stay hflags hgap => rwa [hflags, hgap]
  | advertise button hevent hfree hstate => exact absurd hstate h.advertise
  | discover button refusal hevent hfree hstate hidle hflags hgap =>
    have hclear := (isIdle_iff r).mp hidle
    rw [hflags, hgap]
    exact hradio.scanStart refusal rfl (congrArg Flags.connected hclear).symm
  | resume refusal hevent hwas hd hc hflags hgap =>
    rw [hflags, hgap]
    exact hradio.scanStart refusal hradio.flag rfl
  | connect address hevent =>
    rw [hevent] at hloop
    exact hloop.elim
  | stopAdvertising hflags hgap =>
    rw [hflags, hgap]
    refine { hradio with flag := rfl, advertising := ?_ }
    dsimp only
    rw [hradio.advertising, Bool.false_and]
  | stopScanning hflags hgap =>
    rw [hflags, hgap]
    exact { hradio with }
  | cancel hcancel => exact hradio.cancel hcancel
  | pause r₁ hcancel hflags hgap =>
    rw [hflags, hgap]
    exact { hradio.cancel hcancel with }
  | take evt rest hevents hflags hgap =>
    rw [hflags, hgap]
    exact hradio.take hevents
  | found report rest hevent hevents hmatch hattempts =>
    rw [hevent] at hok
    exact h.found hevents hmatch hok hattempts
  | air change hflags hgap =>
    rw [hflags, hgap]
    exact hradio.air change

theorem Radio.Central.step (h : r.Central) (hloop : event.InLoop false r)
    (hok : radioStep r event = .ok (r', calls)) : r'.Central := by
  have hmodes := radioStep_modes hloop hok
  refine ⟨?_, ?_, h.move hloop hok⟩
  · rcases hmodes.advertise with hsame | hready | ⟨hbutton, -⟩
    · exact hsame ▸ h.advertise
    · rw [hready]
      decide
    · cases hbutton
  · rcases hmodes.role with hsame | hinvalid | ⟨connHandle, rest, hevents⟩
    · exact hsame ▸ h.role
    · rw [hinvalid]
      decide
    · have hevt := h.radio.events (.connected r'.role connHandle) (hevents ▸ List.mem_cons_self)
      rw [beq_iff_eq.mp hevt]
      decide

end

/-- A device that starts with BUTTON_1 not pushed never advertises, and none of
its links is that of a peripheral, however the link is lost and found again.
Whenever no event waits, the flag says whether it is linked. -/
theorem radio_searcher (events : List RadioEvent) (r : Radio) (calls : List RadioCall)
    (hloop : Runs.Guarded radioRun (fun r event => event.InLoop false r) radioBoot events)
    (hrun : Runs.run radioRun radioBoot events = some (r, calls)) :
    r.gap.advertising = false ∧ r.gap.peripheralLink = false ∧ r.isAdvertising = false ∧
      r.role ≠ .periph ∧ (r.gap.events = [] → r.isConnected = r.gap.centralLink) := by
  have hcentral : r.Central := by
    refine hloop.keeps (P := Radio.Central) ?_ central_boot hrun
    intro r event r' out h hevent hstep
    exact h.step hevent (radioRun_eq_some.mp hstep)
  obtain ⟨-, hrole, hradio⟩ := hcentral
  refine ⟨hradio.advertising, hradio.peripheral, hradio.flag, hrole, fun hquiet => ?_⟩
  have hlinks := hradio.links
  rw [Gap.links, hquiet] at hlinks
  exact hlinks

theorem radio_searcher_meeting : ∃ r calls,
    Runs.run radioRun radioBoot meeting = some (r, calls) ∧ calls = [.serviceTryConnect] ∧
      r.gap.peripheralLink = false := by
  have hcalls : (Runs.run radioRun radioBoot meeting).map Prod.snd = some [.serviceTryConnect] := by
    decide +kernel
  obtain ⟨⟨r, calls⟩, hrun, hcalls⟩ := Option.map_eq_some_iff.mp hcalls
  exact ⟨r, calls, hrun, hcalls, (radio_searcher meeting r calls (by decide +kernel) hrun).2.1⟩

end WaterBall
