import WaterBall.Support.Runs
import WaterBall.Radio.Matching

/-!
# Cancelled attempts

`connect_cancel` asks the flag whether there is an attempt to cancel. The flag
stays set until the event that ends the attempt is delivered, and the attempt
may end between the question and the call. The cancel of an attempt that is
over resets the device.
-/

namespace WaterBall

open Support

def GapEvt.endsAttempt : GapEvt → Bool
  | .connected .central _ => true
  | .timeout .conn => true
  | _ => false

def GapChange.endsAttempt : GapChange → Bool
  | linkCentral _ => true
  | timeout .conn => true
  | _ => false

/-- The flag says that there is an attempt, or that there was one and its end is
not delivered yet. -/
def AttemptTracked (f : Flags) (g : Gap) : Prop :=
  f.connecting = true → g.connecting.isSome = true ∨ ∃ evt ∈ g.events, evt.endsAttempt = true

section
variable {f : Flags} {g : Gap}

theorem AttemptTracked.of_clear (hc : f.connecting = false) : AttemptTracked f g :=
  fun h => by cases h.symm.trans hc

theorem AttemptTracked.air (h : AttemptTracked f g) (change : GapChange) :
    AttemptTracked f (gapStep g change) := by
  intro hc
  -- An event that was there stays, and only an attempt's own end takes the attempt away.
  have hkeep : ∀ {g' : Gap} {evt : GapEvt}, g'.connecting = g.connecting →
      g'.events = g.events → (g'.queue evt).connecting.isSome = true ∨
        ∃ evt' ∈ (g'.queue evt).events, evt'.endsAttempt = true := by
    intro g' evt hconnecting hevents
    rcases h hc with hs | ⟨evt', hmem, hends⟩
    · exact .inl (hconnecting ▸ hs)
    · exact .inr ⟨evt', List.mem_append_left _ (hevents ▸ hmem), hends⟩
  have hends : ∀ {g' : Gap} {evt : GapEvt}, evt.endsAttempt = true →
      (g'.queue evt).connecting.isSome = true ∨
        ∃ evt' ∈ (g'.queue evt).events, evt'.endsAttempt = true :=
    fun hevt => .inr ⟨_, List.mem_append_right _ (List.mem_singleton.mpr rfl), hevt⟩
  have hstep := gapStep_spec g change
  generalize gapStep g change = g' at hstep
  cases hstep with
  | idle => exact h hc
  | linkCentral connHandle _ => exact hends rfl
  | connTimeout _ => exact hends rfl
  | _ => exact hkeep rfl rfl

theorem AttemptTracked.take (h : AttemptTracked f g) {evt : GapEvt} {rest : List GapEvt}
    (hq : g.events = evt :: rest) :
    AttemptTracked (f.take evt) (Gap.afterEvt { g with events := rest } f evt) := by
  cases hevt : evt.endsAttempt with
  | true =>
    refine .of_clear ?_
    cases evt with
    | connected role connHandle => rfl
    | timeout src => cases src <;> first | rfl | cases hevt
    | disconnected => cases hevt
    | advReport report => cases hevt
  | false =>
    intro hc
    have hbefore : f.connecting = true := by
      cases evt with
      | connected role connHandle => cases hc
      | timeout src => cases src <;> first | exact hc | cases hevt
      | disconnected => exact hc
      | advReport report => exact hc
    have hattempt : (Gap.afterEvt { g with events := rest } f evt).connecting = g.connecting ∧
        (Gap.afterEvt { g with events := rest } f evt).events = rest := by
      cases evt <;> exact ⟨rfl, rfl⟩
    rw [hattempt.1, hattempt.2]
    refine (h hbefore).imp_right ?_
    rintro ⟨evt', hmem, hends⟩
    rw [hq, List.mem_cons] at hmem
    rcases hmem with rfl | hmem
    · cases hends.symm.trans hevt
    · exact ⟨evt', hmem, hends⟩

end

-- ---------------------------------------------------------------------------
-- Steps
-- ---------------------------------------------------------------------------

section
variable {f : Flags} {g : Gap} {r r' : Radio}

theorem AttemptTracked.attempts {address : GapAddr} (hstart : Attempts r r' address) :
    AttemptTracked r'.flags r'.gap := by
  intro _
  rw [hstart.gap]
  exact .inl rfl

theorem connectCancel_clears {meanwhile : List GapChange}
    (hok : connectCancel r meanwhile = .ok r') : r'.isConnecting = false := by
  rw [connectCancel_eq] at hok
  split at hok
  case isTrue =>
    split at hok
    · cases hok
      exact congrArg Flags.connecting (flags_statusClear r .connecting)
    · cases hok
  case isFalse hclear =>
    cases hok
    exact Bool.not_eq_true _ ▸ hclear

theorem AttemptTracked.connectCancel {meanwhile : List GapChange}
    (hok : connectCancel r meanwhile = .ok r') : AttemptTracked r'.flags r'.gap :=
  .of_clear (connectCancel_clears hok)

theorem AttemptTracked.storagePause {meanwhile : List GapChange}
    (hok : storagePause r meanwhile = .ok r') : AttemptTracked r'.flags r'.gap := by
  rw [storagePause_eq] at hok
  cases hcancel : WaterBall.connectCancel r meanwhile with
  | error call =>
    rw [hcancel] at hok
    cases hok
  | ok r₁ =>
    rw [hcancel] at hok
    cases hok
    refine .of_clear ?_
    show (discoveryCancel r₁).flags.connecting = false
    rw [discoveryCancel_flags]
    exact connectCancel_clears hcancel

/-- A connection is either there already, or an attempt is pending after the call. -/
theorem AttemptTracked.connectConnect {address : GapAddr} {meanwhile : List GapChange}
    (h : AttemptTracked r.flags r.gap) {result : Bool}
    (hok : connectConnect r address meanwhile = .ok (result, r')) :
    AttemptTracked r'.flags r'.gap := by
  rw [connectConnect_eq] at hok
  split at hok
  · cases hok
    exact h
  cases hcancel : WaterBall.connectCancel (discoveryCancel (advertiseCancel r)) meanwhile with
  | error call =>
    rw [hcancel] at hok
    cases hok
  | ok r₁ =>
    rw [hcancel] at hok
    simp only [bind, Except.bind] at hok
    split at hok
    · cases hok
    · cases hok
      exact fun _ => .inl rfl

theorem sdBleGapScanStart_fst (g : Gap) (refusal : UInt32) :
    (sdBleGapScanStart g refusal).1.connecting = g.connecting ∧
      (sdBleGapScanStart g refusal).1.events = g.events := by
  unfold sdBleGapScanStart
  split
  · exact ⟨rfl, rfl⟩
  · split <;> exact ⟨rfl, rfl⟩

theorem AttemptTracked.scan (h : AttemptTracked f g) (refusal : UInt32) :
    AttemptTracked { f with discovering := true } (sdBleGapScanStart g refusal).1 := by
  obtain ⟨hconnecting, hevents⟩ := sdBleGapScanStart_fst g refusal
  intro hc
  rw [hconnecting, hevents]
  exact h hc

/-- Where no cancel is run, the SoftDevice has no part in the step. -/
theorem AttemptTracked.move {event : RadioEvent} (h : AttemptTracked r.flags r.gap)
    (hmove : RadioMove r event r') : AttemptTracked r'.flags r'.gap := by
  cases hmove with
  | stay hflags hgap => rwa [hflags, hgap]
  | advertise _ _ _ _ _ _ hflags => exact .of_clear (congrArg Flags.connecting hflags)
  | discover _ _ _ _ _ _ hflags => exact .of_clear (congrArg Flags.connecting hflags)
  | resume refusal _ _ _ _ hflags hgap =>
    rw [hflags, hgap]
    exact h.scan refusal
  | connect _ _ _ hattempts => exact .attempts hattempts
  | stopAdvertising hflags hgap =>
    rw [hflags, hgap]
    exact h
  | stopScanning hflags hgap =>
    rw [hflags, hgap]
    exact h
  | cancel hcancel => exact .connectCancel hcancel
  | pause r₁ hcancel hflags hgap =>
    rw [hflags, hgap]
    exact AttemptTracked.connectCancel hcancel
  | take evt rest hevents hflags hgap =>
    rw [hflags, hgap]
    exact h.take hevents
  | found _ _ _ _ _ hattempts => exact .attempts hattempts
  | air change hflags hgap =>
    rw [hflags, hgap]
    exact h.air change

theorem radioTask_attemptTracked {task : RadioTask} {meanwhile : List GapChange}
    (h : AttemptTracked r.flags r.gap) (hfree : r.storing = none)
    (hok : radioTask r task meanwhile = .ok r') : AttemptTracked r'.flags r'.gap := by
  -- Most tasks run no cancel and are the same whatever goes on.
  have hplain : radioTask r task = radioTask r task meanwhile → AttemptTracked r'.flags r'.gap :=
    fun hsame => h.move (radioTask_move hfree (hsame.trans hok))
  cases task with
  | connectConnect address =>
    rw [radioTask] at hok
    cases hconnect : WaterBall.connectConnect r address meanwhile with
    | error call =>
      rw [hconnect] at hok
      cases hok
    | ok result =>
      rw [hconnect] at hok
      cases hok
      exact h.connectConnect hconnect
  | connectCancel => exact .connectCancel hok
  | storagePause => exact .storagePause hok
  | _ => exact hplain rfl

theorem bleEvtDispatch_attemptTracked {evt : GapEvt} {rest : List GapEvt}
    {meanwhile : List GapChange} {calls : List RadioCall} (h : AttemptTracked r.flags r.gap)
    (hevents : r.gap.events = evt :: rest)
    (hok : bleEvtDispatch { r with gap.events := rest } evt meanwhile = .ok (r', calls)) :
    AttemptTracked r'.flags r'.gap := by
  cases evt with
  | advReport report =>
    have hrest : AttemptTracked r.flags { r.gap with events := rest } := h.take hevents
    rw [bleEvtDispatch_advReport] at hok
    split at hok
    · cases hconnect : WaterBall.connectConnect { r with gap.events := rest } report.peerAddr
        meanwhile with
      | error call =>
        rw [hconnect] at hok
        cases hok
      | ok result =>
        rw [hconnect] at hok
        cases hok
        exact hrest.connectConnect hconnect
    · cases hok
      exact hrest
  | _ =>
    have hstep : radioStep r .deliver = .ok (r', calls) := by
      rw [radioStep, hevents]
      exact hok
    exact h.move (radioStep_move hstep)

theorem radioStep_attemptTracked {event : RadioEvent} {meanwhile : List GapChange}
    {calls : List RadioCall} (h : AttemptTracked r.flags r.gap)
    (hok : radioStep r event meanwhile = .ok (r', calls)) : AttemptTracked r'.flags r'.gap := by
  cases event with
  | main task =>
    cases hfree : r.storing with
    | some wasDiscovering =>
      rw [radioStep, hfree] at hok
      cases hok
      exact h
    | none =>
      rw [radioStep, hfree] at hok
      cases htask : radioTask r task meanwhile with
      | error call =>
        rw [htask] at hok
        cases hok
      | ok r₁ =>
        rw [htask] at hok
        cases hok
        exact radioTask_attemptTracked h hfree htask
  | deliver =>
    rw [radioStep] at hok
    split at hok
    case h_1 =>
      cases hok
      exact h
    case h_2 evt rest hevents => exact bleEvtDispatch_attemptTracked h hevents hok
  | storageResume refusal =>
    have hstep : radioStep r (.storageResume refusal) = .ok (r', calls) := hok
    exact h.move (radioStep_move hstep)
  | air change =>
    have hstep : radioStep r (.air change) = .ok (r', calls) := hok
    exact h.move (radioStep_move hstep)

-- ---------------------------------------------------------------------------
-- Failed checks
-- ---------------------------------------------------------------------------

/-- The step runs `connect_cancel`. -/
def Radio.runsCancel (r : Radio) : RadioEvent → Bool
  | .main (.connectConnect _) => r.storing.isNone && !r.isConnected
  | .main .connectCancel => r.storing.isNone
  | .main .storagePause => r.storing.isNone
  | .deliver =>
    match r.gap.events with
    | .advReport report :: _ => (discoveryMatches report).1 && !r.isConnected
    | _ => false
  | _ => false

/-- `connect_cancel` runs for an attempt whose end is on its way, or comes
between the question and the call. -/
def CancelRaces (r : Radio) (event : RadioEvent) (meanwhile : List GapChange) : Prop :=
  r.runsCancel event = true ∧ r.isConnecting = true ∧
    ((∃ evt ∈ r.gap.events, evt.endsAttempt = true) ∨
      ∃ change ∈ meanwhile, change.endsAttempt = true)

theorem gapStep_connecting {change : GapChange} (h : change.endsAttempt = false) (g : Gap) :
    (gapStep g change).connecting = g.connecting := by
  cases change with
  | timeout src =>
    cases src <;> unfold gapStep <;> dsimp only
    case conn => cases h
    case securityRequest => rfl
    all_goals split <;> rfl
  | linkCentral => cases h
  | _ =>
    unfold gapStep
    dsimp only
    split <;> rfl

theorem meanwhile_connecting {meanwhile : List GapChange}
    (h : ∀ change ∈ meanwhile, change.endsAttempt = false) (g : Gap) :
    (meanwhile.foldl gapStep g).connecting = g.connecting := by
  induction meanwhile generalizing g with
  | nil => rfl
  | cons change meanwhile ih =>
    obtain ⟨hchange, hrest⟩ := List.forall_mem_cons.mp h
    rw [List.foldl_cons, ih hrest, gapStep_connecting hchange]

/-- The call of a failed check finds the attempt gone, and nothing but the
SoftDevice has taken it away since the start of the step. -/
def CancelFails (r : Radio) (meanwhile : List GapChange) : Prop :=
  r.isConnecting = true ∧
    ∃ g : Gap, g.connecting = r.gap.connecting ∧ (meanwhile.foldl gapStep g).connecting = none

theorem connectConnect_fails {address : GapAddr} {meanwhile : List GapChange}
    (h : connectConnect r address meanwhile = .error .connectCancel) :
    r.isConnected = false ∧ CancelFails r meanwhile := by
  obtain ⟨hk, hc, hnone⟩ := connectConnect_error h
  refine ⟨hk, hc, _, ?_, hnone⟩
  rw [discoveryCancel_gap, advertiseCancel_gap]

theorem radioTask_error {task : RadioTask} {meanwhile : List GapChange} (hfree : r.storing = none)
    (h : radioTask r task meanwhile = .error .connectCancel) :
    r.runsCancel (.main task) = true ∧ CancelFails r meanwhile := by
  cases task with
  | advertiseTasks button1 => cases advertiseTasks_error h
  | discoveryTasks button1 refusal => cases h
  | connectTasks => cases h
  | connectConnect address =>
    cases hconnect : WaterBall.connectConnect r address meanwhile with
    | error call =>
      rw [radioTask, hconnect] at h
      cases h
      obtain ⟨hk, hfails⟩ := connectConnect_fails hconnect
      exact ⟨by simp [Radio.runsCancel, hfree, hk], hfails⟩
    | ok result =>
      rw [radioTask, hconnect] at h
      cases h
  | advertiseCancel => cases h
  | discoveryCancel => cases h
  | connectCancel =>
    obtain ⟨-, hc, hnone⟩ := connectCancel_error h
    exact ⟨by simp [Radio.runsCancel, hfree], hc, _, rfl, hnone⟩
  | storagePause =>
    rw [radioTask, storagePause_eq] at h
    cases hcancel : WaterBall.connectCancel r meanwhile with
    | error call =>
      obtain ⟨-, hc, hnone⟩ := connectCancel_error hcancel
      exact ⟨by simp [Radio.runsCancel, hfree], hc, _, rfl, hnone⟩
    | ok r₁ =>
      rw [hcancel] at h
      cases h

theorem bleEvtDispatch_error {evt : GapEvt} {meanwhile : List GapChange}
    (h : bleEvtDispatch r evt meanwhile = .error .connectCancel) :
    ∃ report, evt = .advReport report ∧ (discoveryMatches report).1 = true ∧
      r.isConnected = false ∧ CancelFails r meanwhile := by
  cases evt with
  | connected role connHandle => cases bleEvtDispatch_connected r role connHandle |>.symm.trans h
  | disconnected => cases h
  | timeout src => cases h
  | advReport report =>
    rw [bleEvtDispatch_advReport] at h
    split at h
    case isTrue hmatch =>
      cases hconnect : connectConnect r report.peerAddr meanwhile with
      | error call =>
        rw [hconnect] at h
        cases h
        exact ⟨report, rfl, hmatch, connectConnect_fails hconnect⟩
      | ok result =>
        rw [hconnect] at h
        cases h
    case isFalse => cases h

theorem radioStep_error {event : RadioEvent} {meanwhile : List GapChange}
    (h : radioStep r event meanwhile = .error .connectCancel) :
    r.runsCancel event = true ∧ CancelFails r meanwhile := by
  cases event with
  | main task =>
    cases hfree : r.storing with
    | some wasDiscovering =>
      rw [radioStep, hfree] at h
      cases h
    | none =>
      cases htask : radioTask r task meanwhile with
      | error call =>
        rw [radioStep, hfree, htask] at h
        cases h
        exact radioTask_error hfree htask
      | ok r₁ =>
        rw [radioStep, hfree, htask] at h
        cases h
  | storageResume refusal =>
    rw [radioStep] at h
    split at h <;> cases h
  | deliver =>
    rw [radioStep] at h
    split at h
    case h_1 => cases h
    case h_2 evt rest hq =>
      obtain ⟨report, rfl, hmatch, hk, hfails⟩ := bleEvtDispatch_error h
      have hk : r.isConnected = false := hk
      exact ⟨by simp [Radio.runsCancel, hq, hmatch, hk], hfails⟩
  | air change => cases h

-- ---------------------------------------------------------------------------
-- Runs
-- ---------------------------------------------------------------------------

/-- A run in which the SoftDevice may go on within the steps. -/
def radioRunAmid (r : Radio) (step : RadioEvent × List GapChange) :
    Option (Radio × List RadioCall) :=
  (radioStep r step.1 step.2).toOption

/-- In every run, a cancel that does not race with the end of its attempt finds
the attempt pending. -/
theorem connectCancel_pending (r₀ : Radio) (h₀ : r₀.isConnecting = false)
    (steps : List (RadioEvent × List GapChange)) (r : Radio) (calls : List RadioCall)
    (hrun : Runs.run radioRunAmid r₀ steps = some (r, calls)) (event : RadioEvent)
    (meanwhile : List GapChange) (hrace : ¬ CancelRaces r event meanwhile) :
    radioStep r event meanwhile ≠ .error .connectCancel := by
  have htracked : AttemptTracked r.flags r.gap := by
    refine Runs.keeps (P := fun r => AttemptTracked r.flags r.gap) ?_ (.of_clear h₀) hrun
    intro r step r' out h hstep
    exact radioStep_attemptTracked h (checked_toOption.mp hstep)
  intro herror
  obtain ⟨hruns, hc, g, hsame, hnone⟩ := radioStep_error herror
  rcases htracked hc with hs | hends
  · -- The attempt was pending at the start, and only its end can have taken it away.
    have hquiet : ∀ change ∈ meanwhile, change.endsAttempt = false := fun change hmem =>
      Bool.eq_false_iff.mpr fun hends => hrace ⟨hruns, hc, .inr ⟨change, hmem, hends⟩⟩
    rw [meanwhile_connecting hquiet, hsame] at hnone
    rw [hnone] at hs
    cases hs
  · exact hrace ⟨hruns, hc, .inl hends⟩

end

def discoveringRadio : Radio :=
  { radioBoot with
    status := Status.discovering.mask
    discoveryState := .discovering
    connectState := .ready
    gap := ⟨false, true, none, false, false, []⟩ }

def foundOnce : List (RadioEvent × List GapChange) :=
  [(.air (.report matchingReport), []), (.deliver, [])]

/-- A store cancels the attempt, and another report comes in between. -/
theorem connectCancel_pending_store : ∃ r calls,
    Runs.run radioRunAmid discoveringRadio foundOnce = some (r, calls) ∧ r.isConnecting = true ∧
      radioStep r (.main .storagePause) [.report matchingReport] ≠ .error .connectCancel := by
  have hfinal : (Runs.run radioRunAmid discoveringRadio foundOnce).map
      (fun final => (final.1.isConnecting, final.1.gap.events)) = some (true, []) := by
    decide +kernel
  obtain ⟨⟨r, calls⟩, hrun, heq⟩ := Option.map_eq_some_iff.mp hfinal
  obtain ⟨hc, hquiet⟩ : r.isConnecting = true ∧ r.gap.events = [] := by simpa using heq
  refine ⟨r, calls, hrun, hc, ?_⟩
  refine connectCancel_pending discoveringRadio (by decide) _ r calls hrun _ _ ?_
  rintro ⟨-, -, ⟨evt, hmem, -⟩ | ⟨change, hmem, hends⟩⟩
  · rw [hquiet] at hmem
    cases hmem
  · cases List.mem_singleton.mp hmem
    cases hends

/-- Two reports of the other device wait when the first one leads to an attempt,
and the second is delivered after the attempt has become a link. -/
def foundTwice : List (RadioEvent × List GapChange) :=
  [(.air (.report matchingReport), []), (.air (.report matchingReport), []), (.deliver, []),
    (.air (.linkCentral 0), [])]

theorem connectCancel_pending_twice :
    discoveringRadio.isConnecting = false ∧ ∃ r calls,
      Runs.run radioRunAmid discoveringRadio foundTwice = some (r, calls) ∧
        r.gap.connecting = none ∧ r.gap.centralLink = true ∧
        radioStep r .deliver = .error .connectCancel := by
  refine ⟨by decide, ?_⟩
  have hfinal : (Runs.run radioRunAmid discoveringRadio foundTwice).map
      (fun final => (final.1.gap.connecting, final.1.gap.centralLink,
        radioStep final.1 .deliver)) = some (none, true, .error .connectCancel) := by
    decide +kernel
  obtain ⟨⟨r, calls⟩, hrun, heq⟩ := Option.map_eq_some_iff.mp hfinal
  obtain ⟨hnone, hlink, herror⟩ : r.gap.connecting = none ∧ r.gap.centralLink = true ∧
      radioStep r .deliver = .error .connectCancel := by simpa using heq
  exact ⟨r, calls, hrun, hnone, hlink, herror⟩

end WaterBall
