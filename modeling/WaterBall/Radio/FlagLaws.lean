import Mathlib.Data.List.Basic
import WaterBall.Radio.Driver

/-!
# What the modules do to the flags and the radio

The status word is four flags. For each function of the modules there is one
law for the flags and one for the SoftDevice after it, and `radioStep_move`
says from them what a step can do.
-/

namespace WaterBall

-- ---------------------------------------------------------------------------
-- Bits
-- ---------------------------------------------------------------------------

theorem UInt32.and_or_left (a b c : UInt32) : a &&& (b ||| c) = a &&& b ||| a &&& c :=
  UInt32.toBitVec_inj.mp BitVec.and_or_distrib_left

theorem Status.mask_and (s s' : Status) : s.mask &&& s'.mask = if s = s' then s'.mask else 0 := by
  cases s <;> cases s' <;> rfl

theorem Status.not_mask_and (s s' : Status) :
    ~~~s.mask &&& s'.mask = if s = s' then 0 else s'.mask := by
  cases s <;> cases s' <;> rfl

theorem Status.mask_ne_zero (s : Status) : s.mask ≠ 0 := by cases s <;> decide

theorem statusIsSet_or (bits s s' : UInt32) :
    statusIsSet bits (s ||| s') = (statusIsSet bits s || statusIsSet bits s') := by
  rw [Bool.eq_iff_iff]
  simp only [statusIsSet, bne_iff_ne, ne_eq, Bool.or_eq_true, UInt32.and_or_left,
    UInt32.or_eq_zero_iff]
  exact Decidable.not_and_iff_not_or_not

theorem statusIsSet_set (bits : UInt32) (s s' : Status) :
    statusIsSet (statusSet bits s.mask) s'.mask = (s == s' || statusIsSet bits s'.mask) := by
  have hdistrib : (bits ||| s.mask) &&& s'.mask = bits &&& s'.mask ||| s.mask &&& s'.mask := by
    rw [UInt32.and_comm, UInt32.and_or_left, UInt32.and_comm, UInt32.and_comm s'.mask]
  rw [Bool.eq_iff_iff]
  simp only [statusIsSet, statusSet, hdistrib, Status.mask_and, bne_iff_ne]
  by_cases h : s = s'
  · simp [h, Status.mask_ne_zero]
  · simp [h]

theorem statusIsSet_clear (bits : UInt32) (s s' : Status) :
    statusIsSet (statusClear bits s.mask) s'.mask = (s != s' && statusIsSet bits s'.mask) := by
  simp only [statusIsSet, statusClear, UInt32.and_assoc, Status.not_mask_and]
  by_cases h : s = s' <;> simp [h]

-- ---------------------------------------------------------------------------
-- Flags
-- ---------------------------------------------------------------------------

structure Flags where
  connected : Bool
  advertising : Bool
  discovering : Bool
  connecting : Bool
  deriving DecidableEq

def Radio.flags (r : Radio) : Flags where
  connected := r.isConnected
  advertising := r.isAdvertising
  discovering := r.isDiscovering
  connecting := r.isConnecting

def Flags.set (f : Flags) (value : Bool) : Status → Flags
  | .connected => { f with connected := value }
  | .advertising => { f with advertising := value }
  | .discovering => { f with discovering := value }
  | .connecting => { f with connecting := value }

section
variable (r : Radio)

@[simp] theorem flags_connected : r.flags.connected = r.isConnected := rfl
@[simp] theorem flags_advertising : r.flags.advertising = r.isAdvertising := rfl
@[simp] theorem flags_discovering : r.flags.discovering = r.isDiscovering := rfl
@[simp] theorem flags_connecting : r.flags.connecting = r.isConnecting := rfl

@[simp] theorem flags_statusSet (s : Status) : (r.statusSet s).flags = r.flags.set true s := by
  cases s <;>
    simp [Radio.flags, Flags.set, Radio.statusSet, Radio.isConnected, Radio.isAdvertising,
      Radio.isDiscovering, Radio.isConnecting, statusIsSet_set]

@[simp] theorem flags_statusClear (s : Status) : (r.statusClear s).flags = r.flags.set false s := by
  cases s <;>
    simp [Radio.flags, Flags.set, Radio.statusClear, Radio.isConnected, Radio.isAdvertising,
      Radio.isDiscovering, Radio.isConnecting, statusIsSet_clear]

@[simp] theorem gap_statusSet (s : Status) : (r.statusSet s).gap = r.gap := rfl
@[simp] theorem gap_statusClear (s : Status) : (r.statusClear s).gap = r.gap := rfl

theorem isIdle_eq : r.isIdle =
    (!r.flags.connected && !r.flags.advertising && !r.flags.discovering &&
      !r.flags.connecting) := by
  simp [Radio.isIdle, statusIsClear, statusIsSet_or, Radio.isConnected, Radio.isAdvertising,
    Radio.isDiscovering, Radio.isConnecting, Bool.and_assoc]

end

theorem radioBoot_eq : radioBoot = radioReset := rfl

-- ---------------------------------------------------------------------------
-- The SoftDevice's calls
-- ---------------------------------------------------------------------------

@[simp] theorem sdBleGapAdvStop_fst (g : Gap) :
    (sdBleGapAdvStop g).1 = { g with advertising := false } := by
  unfold sdBleGapAdvStop
  split
  · rfl
  case isFalse h =>
    simp only [Bool.not_eq_true] at h
    rw [← h]

@[simp] theorem sdBleGapScanStop_fst (g : Gap) :
    (sdBleGapScanStop g).1 = { g with scanning := false } := by
  unfold sdBleGapScanStop
  split
  · rfl
  case isFalse h =>
    simp only [Bool.not_eq_true] at h
    rw [← h]

theorem sdBleGapScanStart_success (g : Gap) (hscan : g.scanning = false)
    (hattempt : g.connecting = none) :
    (sdBleGapScanStart g nrfSuccess).1 = { g with scanning := true } := by
  simp [sdBleGapScanStart, hscan, hattempt]

/-- What the SoftDevice can do on its own. -/
inductive GapStep (g : Gap) : Gap → Prop
  | idle : GapStep g g
  | report (report : AdvReport) : GapStep g (g.queue (.advReport report))
  | linkCentral (connHandle : UInt16) (hs : g.connecting.isSome = true) :
      GapStep g ({ g with connecting := none, centralLink := true }.queue
        (.connected .central connHandle))
  | linkPeripheral (connHandle : UInt16) (ha : g.advertising = true) :
      GapStep g ({ g with advertising := false, peripheralLink := true }.queue
        (.connected .periph connHandle))
  | unlinkCentral (hl : g.centralLink = true) :
      GapStep g ({ g with centralLink := false }.queue .disconnected)
  | unlinkPeripheral (hl : g.peripheralLink = true) :
      GapStep g ({ g with peripheralLink := false }.queue .disconnected)
  | advertisingTimeout (ha : g.advertising = true) :
      GapStep g ({ g with advertising := false }.queue (.timeout .advertising))
  | scanTimeout : GapStep g ({ g with scanning := false }.queue (.timeout .scan))
  | connTimeout (hs : g.connecting.isSome = true) :
      GapStep g ({ g with connecting := none }.queue (.timeout .conn))
  | securityTimeout : GapStep g (g.queue (.timeout .securityRequest))

theorem gapStep_spec (g : Gap) (change : GapChange) : GapStep g (gapStep g change) := by
  cases change with
  | timeout src =>
    cases src <;> unfold gapStep <;> dsimp only
    case securityRequest => exact .securityTimeout
    all_goals
      split
      · first
        | exact .advertisingTimeout ‹_›
        | exact .scanTimeout
        | exact .connTimeout ‹_›
      · exact .idle
  | _ =>
    unfold gapStep
    dsimp only
    split
    · first
      | exact .report _
      | exact .linkCentral _ ‹_›
      | exact .linkPeripheral _ ‹_›
      | exact .unlinkCentral ‹_›
      | exact .unlinkPeripheral ‹_›
    · exact .idle

-- ---------------------------------------------------------------------------
-- The modules' functions
-- ---------------------------------------------------------------------------

section
variable {r r' : Radio}

@[simp] theorem advertiseCancel_flags (r : Radio) :
    (advertiseCancel r).flags = { r.flags with advertising := false } := by
  unfold advertiseCancel
  cases h : r.isAdvertising with
  | false =>
    simp only [Bool.not_false, if_true]
    rw [← h]
    rfl
  | true => exact flags_statusClear r .advertising

@[simp] theorem advertiseCancel_gap (r : Radio) :
    (advertiseCancel r).gap =
      { r.gap with advertising := r.gap.advertising && !r.isAdvertising } := by
  unfold advertiseCancel
  cases h : r.isAdvertising <;> simp

@[simp] theorem discoveryCancel_flags (r : Radio) :
    (discoveryCancel r).flags = { r.flags with discovering := false } := by
  unfold discoveryCancel
  cases h : r.isDiscovering with
  | false =>
    simp only [Bool.not_false, if_true]
    rw [← h]
    rfl
  | true => exact flags_statusClear r .discovering

@[simp] theorem discoveryCancel_gap (r : Radio) :
    (discoveryCancel r).gap = { r.gap with scanning := r.gap.scanning && !r.isDiscovering } := by
  unfold discoveryCancel
  cases h : r.isDiscovering <;> simp

theorem connectCancel_eq (r : Radio) (meanwhile : List GapChange) : connectCancel r meanwhile =
    if r.isConnecting then
      if (meanwhile.foldl gapStep r.gap).connecting.isSome then
        .ok { r.statusClear .connecting with
          gap := { meanwhile.foldl gapStep r.gap with connecting := none } }
      else .error .connectCancel
    else .ok r := by
  unfold connectCancel
  cases hc : r.isConnecting with
  | false => rfl
  | true =>
    by_cases hg : (meanwhile.foldl gapStep r.gap).connecting.isSome
    · simp only [sdBleGapConnectCancel, gap_statusClear, hg, if_true]
      rfl
    · simp only [sdBleGapConnectCancel, gap_statusClear, hg]
      rfl

theorem connectCancel_ok (h : connectCancel r = .ok r') :
    (r.isConnecting = true → r.gap.connecting.isSome = true) ∧
      r'.flags = { r.flags with connecting := false } ∧
      r'.gap = if r.isConnecting then { r.gap with connecting := none } else r.gap := by
  rw [connectCancel_eq] at h
  cases hc : r.isConnecting with
  | false =>
    simp only [hc, Bool.false_eq_true, if_false] at h
    cases h
    refine ⟨nofun, ?_, rfl⟩
    rw [← hc]
    rfl
  | true =>
    simp only [hc, if_true] at h
    split at h
    case isTrue hg =>
      cases h
      exact ⟨fun _ => hg, flags_statusClear r .connecting, rfl⟩
    case isFalse => cases h

theorem connectCancel_error {call : GapCall} {meanwhile : List GapChange}
    (h : connectCancel r meanwhile = .error call) :
    call = .connectCancel ∧ r.isConnecting = true ∧
      (meanwhile.foldl gapStep r.gap).connecting = none := by
  rw [connectCancel_eq] at h
  split at h
  case isTrue hc =>
    split at h
    · cases h
    case isFalse hg =>
      cases h
      exact ⟨rfl, hc, Option.not_isSome_iff_eq_none.mp hg⟩
  case isFalse => cases h

theorem connectConnect_eq (r : Radio) (address : GapAddr) (meanwhile : List GapChange) :
    connectConnect r address meanwhile =
    if r.isConnected then .ok (true, r)
    else do
      let r ← connectCancel (discoveryCancel (advertiseCancel r)) meanwhile
      if r.gap.connecting.isSome || r.gap.centralLink then .error .connect
      else
        return (true, { r with gap := { r.gap with
          connecting := some address
          scanning := false } }.statusSet .connecting) := by
  unfold connectConnect
  split
  · rfl
  refine congrArg (_ >>= ·) (funext fun r => ?_)
  by_cases hg : r.gap.connecting.isSome || r.gap.centralLink
  · simp only [sdBleGapConnect, hg, if_true]
    rfl
  · simp only [sdBleGapConnect, hg]
    rfl

/-- A new attempt takes the place of all that went on. -/
structure Attempts (r r' : Radio) (address : GapAddr) : Prop where
  connected : r.isConnected = false
  pending : r.isConnecting = true → r.gap.connecting.isSome = true
  flags : r'.flags = ⟨false, false, false, true⟩
  gap : r'.gap = { r.gap with
    advertising := r.gap.advertising && !r.isAdvertising
    connecting := some address
    scanning := false }

theorem connectConnect_ok {address : GapAddr} {result : Bool}
    (h : connectConnect r address = .ok (result, r')) :
    (r.isConnected = true ∧ r' = r) ∨ Attempts r r' address := by
  rw [connectConnect_eq] at h
  cases hk : r.isConnected with
  | true =>
    rw [hk, if_pos rfl] at h
    cases h
    exact .inl ⟨rfl, rfl⟩
  | false =>
    rw [hk, if_neg Bool.false_ne_true] at h
    cases hcancel : connectCancel (discoveryCancel (advertiseCancel r)) with
    | error call =>
      rw [hcancel] at h
      cases h
    | ok r₁ =>
      obtain ⟨hpending, hflags, hgap⟩ := connectCancel_ok hcancel
      simp only [← flags_connecting, discoveryCancel_flags, advertiseCancel_flags,
        discoveryCancel_gap, advertiseCancel_gap] at hpending hflags hgap
      rw [hcancel] at h
      simp only [bind, Except.bind] at h
      split at h
      · cases h
      case isFalse hfree =>
        cases h
        refine .inr ⟨hk, hpending, ?_, ?_⟩
        · rw [flags_statusSet]
          show r₁.flags.set true .connecting = _
          simp [hflags, Flags.set, hk]
        · rw [gap_statusSet]
          show ({ r₁.gap with connecting := some address, scanning := false } : Gap) = _
          rw [hgap]
          split <;> rfl

theorem connectConnect_error {address : GapAddr} {meanwhile : List GapChange}
    (h : connectConnect r address meanwhile = .error .connectCancel) :
    r.isConnected = false ∧ r.isConnecting = true ∧
      (meanwhile.foldl gapStep (discoveryCancel (advertiseCancel r)).gap).connecting = none := by
  rw [connectConnect_eq] at h
  split at h
  · cases h
  case isFalse hk =>
    cases hcancel : connectCancel (discoveryCancel (advertiseCancel r)) meanwhile with
    | error call =>
      obtain ⟨-, hc, hnone⟩ := connectCancel_error hcancel
      rw [← flags_connecting, discoveryCancel_flags, advertiseCancel_flags] at hc
      exact ⟨Bool.not_eq_true _ ▸ hk, hc, hnone⟩
    | ok r₁ =>
      rw [hcancel] at h
      simp only [bind, Except.bind] at h
      split at h <;> cases h

theorem isIdle_iff (r : Radio) : r.isIdle = true ↔ r.flags = ⟨false, false, false, false⟩ := by
  rw [isIdle_eq]
  cases r.flags
  simp [and_assoc]

theorem advertiseAdvertise_idle (hidle : r.isIdle = true) : advertiseAdvertise r =
    if r.gap.advertising || r.gap.peripheralLink then .error .advStart
    else
      .ok (true, { r with gap := { r.gap with advertising := true } }.statusSet .advertising) := by
  have hflags := (isIdle_iff r).mp hidle
  have hc : r.isConnecting = false := congrArg Flags.connecting hflags
  have ha : r.isAdvertising = false := congrArg Flags.advertising hflags
  unfold advertiseAdvertise
  rw [hc, ha]
  by_cases hg : r.gap.advertising || r.gap.peripheralLink
  · simp only [sdBleGapAdvStart, hg, Bool.false_eq_true, if_true, if_false]
    rfl
  · simp only [sdBleGapAdvStart, hg, Bool.false_eq_true, if_false]
    rfl

theorem advertiseTasks_idle (hstate : r.advertiseState = .advertising) (hidle : r.isIdle = true)
    (button1 : Bool) : advertiseTasks r button1 =
      if r.gap.advertising || r.gap.peripheralLink then .error .advStart
      else .ok ({ r with gap := { r.gap with advertising := true } }.statusSet .advertising) := by
  unfold advertiseTasks
  split
  case h_3 =>
    rw [if_pos hidle, advertiseAdvertise_idle hidle]
    split <;> rfl
  all_goals
    rename_i hother
    cases hstate.symm.trans hother

theorem advertiseTasks_other (h : ¬ (r.advertiseState = .advertising ∧ r.isIdle = true))
    (button1 : Bool) :
    ∃ r', advertiseTasks r button1 = .ok r' ∧ r'.flags = r.flags ∧ r'.gap = r.gap := by
  unfold advertiseTasks
  split
  case h_3 hstate =>
    rw [if_neg fun hidle => h ⟨hstate, hidle⟩]
    exact ⟨_, rfl, rfl, rfl⟩
  all_goals exact ⟨_, rfl, rfl, rfl⟩

theorem advertiseTasks_error {button1 : Bool} {call : GapCall}
    (h : advertiseTasks r button1 = .error call) : call = .advStart := by
  by_cases hstart : r.advertiseState = .advertising ∧ r.isIdle = true
  · rw [advertiseTasks_idle hstart.1 hstart.2] at h
    split at h <;> cases h
    rfl
  · obtain ⟨r', hok, -⟩ := advertiseTasks_other hstart button1
    cases hok.symm.trans h

theorem advertiseTasks_ok {button1 : Bool} (h : advertiseTasks r button1 = .ok r') :
    (r'.flags = r.flags ∧ r'.gap = r.gap) ∨
      (r.advertiseState = .advertising ∧ r.isIdle = true ∧ r.gap.peripheralLink = false ∧
        r'.flags = ⟨false, true, false, false⟩ ∧
        r'.gap = { r.gap with advertising := true }) := by
  by_cases hstart : r.advertiseState = .advertising ∧ r.isIdle = true
  · obtain ⟨hstate, hidle⟩ := hstart
    rw [advertiseTasks_idle hstate hidle] at h
    split at h
    · cases h
    case isFalse hg =>
      cases h
      refine .inr ⟨hstate, hidle, ?_, ?_, rfl⟩
      · exact (Bool.or_eq_false_iff.mp (Bool.not_eq_true _ ▸ hg)).2
      · rw [flags_statusSet]
        show r.flags.set true .advertising = _
        rw [(isIdle_iff r).mp hidle]
        rfl
  · obtain ⟨r₁, hok, hsame⟩ := advertiseTasks_other hstart button1
    cases hok.symm.trans h
    exact .inl hsame

/-- Nothing in the result tells whether the scan has started. -/
theorem discoveryDiscovery_eq (r : Radio) (refusal : UInt32) : (discoveryDiscovery r refusal).2 =
    if r.isDiscovering || r.isConnecting then r
    else { r with gap := (sdBleGapScanStart r.gap refusal).1 }.statusSet .discovering := by
  unfold discoveryDiscovery
  split <;> rfl

theorem discoveryTasks_idle (hstate : r.discoveryState = .discovering) (hidle : r.isIdle = true)
    (button1 : Bool) (refusal : UInt32) : discoveryTasks r button1 refusal =
      { r with gap := (sdBleGapScanStart r.gap refusal).1 }.statusSet .discovering := by
  have hflags := (isIdle_iff r).mp hidle
  have hd : r.isDiscovering = false := congrArg Flags.discovering hflags
  have hc : r.isConnecting = false := congrArg Flags.connecting hflags
  unfold discoveryTasks
  split
  case h_3 =>
    rw [if_pos hidle, discoveryDiscovery_eq, hd, hc]
    rfl
  all_goals
    rename_i hother
    cases hstate.symm.trans hother

theorem discoveryTasks_flags (r : Radio) (button1 : Bool) (refusal : UInt32) :
    ((discoveryTasks r button1 refusal).flags = r.flags ∧
        (discoveryTasks r button1 refusal).gap = r.gap) ∨
      (r.discoveryState = .discovering ∧ r.isIdle = true ∧
        (discoveryTasks r button1 refusal).flags = ⟨false, false, true, false⟩ ∧
        (discoveryTasks r button1 refusal).gap = (sdBleGapScanStart r.gap refusal).1) := by
  by_cases hstart : r.discoveryState = .discovering ∧ r.isIdle = true
  · obtain ⟨hstate, hidle⟩ := hstart
    rw [discoveryTasks_idle hstate hidle]
    refine .inr ⟨hstate, hidle, ?_, rfl⟩
    rw [flags_statusSet]
    show r.flags.set true .discovering = _
    rw [(isIdle_iff r).mp hidle]
    rfl
  · unfold discoveryTasks
    split
    case h_3 hstate =>
      rw [if_neg fun hidle => hstart ⟨hstate, hidle⟩]
      exact .inl ⟨rfl, rfl⟩
    all_goals exact .inl ⟨rfl, rfl⟩

/-- A cancel does nothing where its flag is clear, so the pause is both. -/
theorem storagePause_eq (r : Radio) (meanwhile : List GapChange) : storagePause r meanwhile = do
    let r ← connectCancel r meanwhile
    return { discoveryCancel r with storing := some r.isDiscovering } := by
  have hdiscovery : ∀ r, (if r.isDiscovering then discoveryCancel r else r) =
      discoveryCancel r := by
    intro r
    split
    · rfl
    case isFalse h => simp [discoveryCancel, h]
  unfold storagePause
  simp only [hdiscovery]
  split
  · rfl
  case isFalse h =>
    rw [connectCancel_eq, if_neg h]
    rfl

theorem storagePause_ok (h : storagePause r = .ok r') :
    ∃ r₁, connectCancel r = .ok r₁ ∧ r'.flags = { r₁.flags with discovering := false } ∧
      r'.gap = { r₁.gap with scanning := r₁.gap.scanning && !r₁.isDiscovering } := by
  rw [storagePause_eq] at h
  cases hcancel : connectCancel r with
  | error call =>
    rw [hcancel] at h
    cases h
  | ok r₁ =>
    rw [hcancel] at h
    cases h
    exact ⟨r₁, rfl, discoveryCancel_flags r₁, discoveryCancel_gap r₁⟩

-- ---------------------------------------------------------------------------
-- Deliveries
-- ---------------------------------------------------------------------------

/-- What an event makes of the flags, a matching report apart. -/
def Flags.take (f : Flags) : GapEvt → Flags
  | .connected _ _ => { f with connected := true, advertising := false, connecting := false }
  | .disconnected => { f with connected := false }
  | .timeout .advertising => { f with advertising := false }
  | .timeout .scan => { f with discovering := false }
  | .timeout .conn => { f with connecting := false }
  | .timeout .securityRequest => f
  | .advReport _ => f

def Gap.afterEvt (g : Gap) (f : Flags) : GapEvt → Gap
  | .connected _ _ => { g with advertising := g.advertising && !f.advertising }
  | _ => g

theorem bleEvtDispatch_advReport (r : Radio) (report : AdvReport) (meanwhile : List GapChange) :
    bleEvtDispatch r (.advReport report) meanwhile =
      if (discoveryMatches report).1 then
        (connectConnect r report.peerAddr meanwhile).map fun result => (result.2, [])
      else .ok (r, []) := by
  unfold bleEvtDispatch connectOnBleEvt advertiseOnBleEvt discoveryOnBleEvt
  dsimp only
  split
  · cases connectConnect r report.peerAddr meanwhile <;> rfl
  · rfl

theorem connectOnBleEvt_connected (r : Radio) (role : GapRole) (connHandle : UInt16) :
    (connectOnBleEvt r (.connected role connHandle)).1.flags =
      { r.flags with connected := true, connecting := false } := by
  show ((Radio.statusClear _ .connecting).statusSet .connected).flags = _
  rw [flags_statusSet, flags_statusClear]
  rfl

theorem bleEvtDispatch_connected (r : Radio) (role : GapRole) (connHandle : UInt16) :
    bleEvtDispatch r (.connected role connHandle) =
      .ok (advertiseCancel (connectOnBleEvt r (.connected role connHandle)).1,
        (connectOnBleEvt r (.connected role connHandle)).2) := by
  have hcancel : ∀ r, advertiseOnBleEvt r (.connected role connHandle) = advertiseCancel r := by
    intro r
    unfold advertiseOnBleEvt
    dsimp only
    split
    · rfl
    case isFalse h => simp [advertiseCancel, h]
  rw [← hcancel]
  rfl

theorem bleEvtDispatch_ok {evt : GapEvt} {calls : List RadioCall}
    (h : bleEvtDispatch r evt = .ok (r', calls)) :
    (r'.flags = r.flags.take evt ∧ r'.gap = r.gap.afterEvt r.flags evt) ∨
      ∃ report, evt = .advReport report ∧ (discoveryMatches report).1 = true ∧
        Attempts r r' report.peerAddr := by
  cases evt with
  | connected role connHandle =>
    rw [bleEvtDispatch_connected] at h
    cases h
    have hflags := connectOnBleEvt_connected r role connHandle
    refine .inl ⟨?_, ?_⟩
    · rw [advertiseCancel_flags, hflags]
      rfl
    · rw [advertiseCancel_gap, ← flags_advertising, hflags]
      rfl
  | disconnected =>
    cases h
    exact .inl ⟨flags_statusClear r .connected, rfl⟩
  | timeout src =>
    cases src <;> cases h
    · exact .inl ⟨flags_statusClear r .advertising, rfl⟩
    · exact .inl ⟨rfl, rfl⟩
    · exact .inl ⟨flags_statusClear r .discovering, rfl⟩
    · exact .inl ⟨flags_statusClear r .connecting, rfl⟩
  | advReport report =>
    rw [bleEvtDispatch_advReport] at h
    split at h
    case isTrue hmatch =>
      cases hconnect : connectConnect r report.peerAddr with
      | error call =>
        rw [hconnect] at h
        cases h
      | ok result =>
        rw [hconnect] at h
        cases h
        rcases connectConnect_ok hconnect with ⟨-, hr⟩ | hattempts
        · exact .inl (hr ▸ ⟨rfl, rfl⟩)
        · exact .inr ⟨report, rfl, hmatch, hattempts⟩
    case isFalse =>
      cases h
      exact .inl ⟨rfl, rfl⟩

theorem checked_toOption {α : Type} {x : Checked α} {a : α} :
    x.toOption = some a ↔ x = .ok a := by
  cases x <;> simp [Except.toOption]

theorem radioRun_eq_some {event : RadioEvent} {calls : List RadioCall} :
    radioRun r event = some (r', calls) ↔ radioStep r event = .ok (r', calls) := checked_toOption

-- ---------------------------------------------------------------------------
-- Steps
-- ---------------------------------------------------------------------------

/-- What a step does to the flags and the SoftDevice. -/
inductive RadioMove (r : Radio) (event : RadioEvent) (r' : Radio) : Prop
  | stay (hflags : r'.flags = r.flags) (hgap : r'.gap = r.gap)
  | advertise (button1 : Bool) (hevent : event = .main (.advertiseTasks button1))
      (hfree : r.storing = none) (hstate : r.advertiseState = .advertising)
      (hidle : r.isIdle = true) (hper : r.gap.peripheralLink = false)
      (hflags : r'.flags = ⟨false, true, false, false⟩)
      (hgap : r'.gap = { r.gap with advertising := true })
  | discover (button1 : Bool) (refusal : UInt32)
      (hevent : event = .main (.discoveryTasks button1 refusal)) (hfree : r.storing = none)
      (hstate : r.discoveryState = .discovering) (hidle : r.isIdle = true)
      (hflags : r'.flags = ⟨false, false, true, false⟩)
      (hgap : r'.gap = (sdBleGapScanStart r.gap refusal).1)
  | resume (refusal : UInt32) (hevent : event = .storageResume refusal)
      (hwas : r.storing = some true) (hd : r.isDiscovering = false) (hc : r.isConnecting = false)
      (hflags : r'.flags = { r.flags with discovering := true })
      (hgap : r'.gap = (sdBleGapScanStart r.gap refusal).1)
  | connect (address : GapAddr) (hevent : event = .main (.connectConnect address))
      (hfree : r.storing = none) (hattempts : Attempts r r' address)
  | stopAdvertising (hflags : r'.flags = { r.flags with advertising := false })
      (hgap : r'.gap = { r.gap with advertising := r.gap.advertising && !r.isAdvertising })
  | stopScanning (hflags : r'.flags = { r.flags with discovering := false })
      (hgap : r'.gap = { r.gap with scanning := r.gap.scanning && !r.isDiscovering })
  | cancel (hcancel : connectCancel r = .ok r')
  | pause (r₁ : Radio) (hcancel : connectCancel r = .ok r₁)
      (hflags : r'.flags = { r₁.flags with discovering := false })
      (hgap : r'.gap = { r₁.gap with scanning := r₁.gap.scanning && !r₁.isDiscovering })
  | take (evt : GapEvt) (rest : List GapEvt) (hevents : r.gap.events = evt :: rest)
      (hflags : r'.flags = r.flags.take evt)
      (hgap : r'.gap = Gap.afterEvt { r.gap with events := rest } r.flags evt)
  | found (report : AdvReport) (rest : List GapEvt) (hevent : event = .deliver)
      (hevents : r.gap.events = .advReport report :: rest)
      (hmatch : (discoveryMatches report).1 = true)
      (hattempts : Attempts { r with gap.events := rest } r' report.peerAddr)
  | air (change : GapChange) (hflags : r'.flags = r.flags) (hgap : r'.gap = gapStep r.gap change)

theorem storageResume_move (hwas : r.storing = some true) (refusal : UInt32) :
    RadioMove r (.storageResume refusal) (storageResume r true refusal) := by
  unfold storageResume
  rw [if_pos rfl, discoveryDiscovery_eq]
  split
  · exact .stay rfl rfl
  case isFalse hflags =>
    obtain ⟨hd, hc⟩ := Bool.or_eq_false_iff.mp (Bool.not_eq_true _ ▸ hflags)
    exact .resume refusal rfl hwas hd hc (flags_statusSet _ .discovering) rfl

theorem radioTask_move (hfree : r.storing = none) {task : RadioTask}
    (hok : radioTask r task = .ok r') : RadioMove r (.main task) r' := by
  cases task with
  | advertiseTasks button1 =>
    rcases advertiseTasks_ok hok with ⟨hflags, hgap⟩ | ⟨hstate, hidle, hper, hflags, hgap⟩
    · exact .stay hflags hgap
    · exact .advertise button1 rfl hfree hstate hidle hper hflags hgap
  | discoveryTasks button1 refusal =>
    cases hok
    rcases discoveryTasks_flags r button1 refusal with
      ⟨hflags, hgap⟩ | ⟨hstate, hidle, hflags, hgap⟩
    · exact .stay hflags hgap
    · exact .discover button1 refusal rfl hfree hstate hidle hflags hgap
  | connectTasks =>
    cases hok
    unfold connectTasks
    split <;> exact .stay rfl rfl
  | connectConnect address =>
    rw [radioTask] at hok
    cases hconnect : connectConnect r address with
    | error call =>
      rw [hconnect] at hok
      cases hok
    | ok result =>
      rw [hconnect] at hok
      cases hok
      rcases connectConnect_ok hconnect with ⟨-, hr⟩ | hattempts
      · exact hr ▸ .stay rfl rfl
      · exact .connect address rfl hfree hattempts
  | advertiseCancel =>
    cases hok
    exact .stopAdvertising (advertiseCancel_flags r) (advertiseCancel_gap r)
  | discoveryCancel =>
    cases hok
    exact .stopScanning (discoveryCancel_flags r) (discoveryCancel_gap r)
  | connectCancel => exact .cancel hok
  | storagePause =>
    obtain ⟨r₁, hcancel, hflags, hgap⟩ := storagePause_ok hok
    exact .pause r₁ hcancel hflags hgap

theorem radioStep_move {event : RadioEvent} {calls : List RadioCall}
    (hok : radioStep r event = .ok (r', calls)) : RadioMove r event r' := by
  cases event with
  | main task =>
    cases hfree : r.storing with
    | some wasDiscovering =>
      rw [radioStep, hfree] at hok
      cases hok
      exact .stay rfl rfl
    | none =>
      rw [radioStep, hfree] at hok
      cases htask : radioTask r task with
      | error call =>
        rw [htask] at hok
        cases hok
      | ok r₁ =>
        rw [htask] at hok
        cases hok
        exact radioTask_move hfree htask
  | storageResume refusal =>
    rw [radioStep] at hok
    split at hok
    case h_1 wasDiscovering hwas =>
      cases hok
      cases wasDiscovering with
      | false => exact .stay rfl rfl
      | true => exact storageResume_move hwas refusal
    case h_2 =>
      cases hok
      exact .stay rfl rfl
  | deliver =>
    rw [radioStep] at hok
    split at hok
    case h_1 =>
      cases hok
      exact .stay rfl rfl
    case h_2 evt rest hevents =>
      rcases bleEvtDispatch_ok hok with ⟨hflags, hgap⟩ | ⟨report, rfl, hmatch, hattempts⟩
      · exact .take evt rest hevents hflags hgap
      · exact .found report rest rfl hevents hmatch hattempts
  | air change =>
    cases hok
    exact .air change rfl rfl

-- ---------------------------------------------------------------------------
-- Stores
-- ---------------------------------------------------------------------------

/-- A call of the store's, on the radio. -/
def radioPerform (refusal : UInt32) (r : Radio) : StorageCall → Checked Radio
  | .connectCancel => connectCancel r
  | .discoveryCancel => return discoveryCancel r
  | .discoveryDiscovery => return (discoveryDiscovery r refusal).2
  | _ => return r

theorem discoveryDiscovery_storing (r : Radio) (storing : Option Bool) (refusal : UInt32) :
    (discoveryDiscovery { r with storing } refusal).2 =
      { (discoveryDiscovery r refusal).2 with storing } := by
  rw [discoveryDiscovery_eq, discoveryDiscovery_eq]
  by_cases h : r.isDiscovering || r.isConnecting
  · have h' : Radio.isDiscovering { r with storing } || Radio.isConnecting { r with storing } := h
    rw [if_pos h', if_pos h]
  · have h' : ¬ (Radio.isDiscovering { r with storing } || Radio.isConnecting { r with storing }) :=
      h
    rw [if_neg h', if_neg h]
    rfl

/-- A store with no event in it is a pause and a resumption. -/
theorem storageFlashValue_radio {sdk : Pstorage} {s s' : Storage} {offset : UInt32}
    {source : List UInt8} {calls : List StorageCall} (refusal : UInt32)
    (h : storageFlashValue sdk s offset source r.isConnecting r.isDiscovering =
      some (s', calls)) :
    (calls.foldlM (radioPerform refusal) r).map ({ · with storing := none }) =
      (storagePause r).map fun r₁ => storageResume r₁ r.isDiscovering refusal := by
  simp only [storageFlashValue, storageStoreData, Option.bind_eq_bind, Option.bind_eq_some_iff,
    Option.pure_def, Option.some.injEq, Prod.mk.injEq] at h
  obtain ⟨flashedCopy, -, -, rfl⟩ := h
  have hfirst : (if r.isConnecting then [StorageCall.connectCancel] else []).foldlM
      (radioPerform refusal) r = connectCancel r := by
    split
    · exact bind_pure _
    case isFalse hc =>
      rw [connectCancel_eq, if_neg hc]
      rfl
  rw [List.foldlM_append, List.foldlM_append, List.foldlM_append, hfirst, storagePause_eq]
  cases hcancel : connectCancel r with
  | error call => rfl
  | ok r₁ =>
    have hd : r₁.isDiscovering = r.isDiscovering :=
      congrArg Flags.discovering (connectCancel_ok hcancel).2.1
    cases hwas : r.isDiscovering with
    | false =>
      have hcancel : discoveryCancel r₁ = r₁ := by simp [discoveryCancel, hd, hwas]
      show _ = Except.ok (storageResume { discoveryCancel r₁ with storing := _ } false refusal)
      rw [hcancel]
      rfl
    | true =>
      show _ = Except.ok (storageResume { discoveryCancel r₁ with storing := _ } true refusal)
      rw [storageResume, if_pos rfl, discoveryDiscovery_storing]
      rfl

end

end WaterBall
