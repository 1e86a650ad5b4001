import WaterBall.Game.Console
import WaterBall.Game.Timing

/-!
# What the displays say of the time

A turn of the game reads a counter of 24 bits, works out the milliseconds that
are left and writes digits. In true time: the displays show what is left of the
countdown or of the game at the last turn.
-/

namespace WaterBall

open Support RegisterFile

-- ---------------------------------------------------------------------------
-- Two numbers
-- ---------------------------------------------------------------------------

/-- The low two digits of two numbers. -/
def numbersShown (left right : Nat) : Nat → UInt8 := fun k =>
  numberPattern (fourDigits (left / 10).toUInt8 (left % 10).toUInt8 (right / 10).toUInt8
    (right % 10).toUInt8 k)

theorem setNumbers_shows {past : UInt8 → UInt16} {bus : Bus} (p : Panel)
    (address : DisplayAddress) {left right : UInt8} (hleft : left < 170) (hright : right < 170)
    (colonType : ColonType) (hbus : ∀ n, bus.arrives n = true) :
    (panelStep past p (.setNumbers address left right colonType, bus)).Shows address
      (numbersShown left.toNat right.toNat) := by
  intro k hk
  have hfits := numberDigits_shown_iff.mpr ⟨hleft, hright⟩ k hk
  rw [setNumbers_digit past p address left right colonType hbus hk, if_neg hfits]
  have hdigits (value : UInt8) : (value.toNat / 10).toUInt8 = value / 10 ∧
      (value.toNat % 10).toUInt8 = value % 10 := by
    have hvalue := value.toNat_lt
    refine ⟨UInt8.toNat_inj.mp ?_, UInt8.toNat_inj.mp ?_⟩
    · rw [Nat.toUInt8, UInt8.toNat_ofNat', UInt8.toNat_div]
      simp only [UInt8.reduceToNat]
      omega
    · rw [Nat.toUInt8, UInt8.toNat_ofNat', UInt8.toNat_mod]
      simp only [UInt8.reduceToNat]
      omega
  rw [numbersShown, (hdigits left).1, (hdigits left).2, (hdigits right).1, (hdigits right).2]
  rfl

theorem toNat_toUInt8_of_le {value : UInt32} (h : value ≤ 99) :
    value.toUInt8.toNat = value.toNat ∧ value.toUInt8 < 170 := by
  have hle : value.toNat ≤ 99 := UInt32.le_iff_toNat_le.mp h
  have hlow : value.toUInt8.toNat = value.toNat := by
    rw [UInt32.toNat_toUInt8]
    omega
  refine ⟨hlow, UInt8.lt_iff_toNat_lt.mpr ?_⟩
  rw [hlow]
  show value.toNat < 170
  omega

-- ---------------------------------------------------------------------------
-- The time of a game
-- ---------------------------------------------------------------------------

/-- Seconds and hundredths, and a whole minute as minutes and seconds. -/
def timeShown (ms : Nat) : Nat → UInt8 :=
  if ms < 60000 then numbersShown (ms / 1000) (ms % 1000 / 10)
  else numbersShown (ms / 60000) (ms / 1000 % 60)

/-- The two numbers of `game_print_time` on its automatic scale. -/
def autoNumbers (ms : UInt32) : UInt32 × UInt32 :=
  if 60 > ms / 1000 then (ms / 1000 % 60, ms % 1000 / 10)
  else (ms / 1000 / 60, ms / 1000 % 60)

theorem gamePrintTime_auto (ms : UInt32) : gamePrintTime ms .auto =
    [.serialWrite ("\r\t" ++ formatTwoDigits (autoNumbers ms).1 ++ ":" ++
        formatTwoDigits (autoNumbers ms).2),
      .sevenSegmentSetNumbers timeAddress (autoNumbers ms).1.toUInt8 (autoNumbers ms).2.toUInt8
        .colon] := rfl

theorem autoNumbers_shown {ms : UInt32} (hms : ms.toNat ≤ 60000) :
    (autoNumbers ms).1 ≤ 99 ∧ (autoNumbers ms).2 ≤ 99 ∧
      timeShown ms.toNat = numbersShown (autoNumbers ms).1.toNat (autoNumbers ms).2.toNat := by
  simp only [UInt32.le_iff_toNat_le, UInt32.reduceToNat]
  unfold autoNumbers timeShown
  by_cases hshort : 60 > ms / 1000
  case pos =>
    have hlt : ms.toNat / 1000 < 60 := UInt32.lt_iff_toNat_lt.mp hshort
    have hleft : (ms / 1000 % 60).toNat = ms.toNat / 1000 := Nat.mod_eq_of_lt hlt
    have hright : (ms % 1000 / 10).toNat = ms.toNat % 1000 / 10 := rfl
    rw [if_pos hshort, if_pos (by omega), hleft, hright]
    exact ⟨by omega, by omega, rfl⟩
  case neg =>
    have hge : ¬ ms.toNat / 1000 < 60 := fun hlt => hshort (UInt32.lt_iff_toNat_lt.mpr hlt)
    have hleft : (ms / 1000 / 60).toNat = ms.toNat / 60000 := Nat.div_div_eq_div_mul ..
    have hright : (ms / 1000 % 60).toNat = ms.toNat / 1000 % 60 := rfl
    rw [if_neg hshort, if_neg (by omega), hleft, hright]
    exact ⟨by omega, by omega, rfl⟩

section
variable (past : UInt8 → UInt16) (p : Panel) {buses : Nat → Bus}

theorem play_shows {ms : UInt32} (hms : ms.toNat ≤ 60000) (myScore theirScore : UInt32)
    (hbuses : ∀ i n, (buses i).arrives n = true) :
    let p' := panelPerform past p buses
      (gamePrintTime ms .auto ++ gamePrintScore myScore theirScore)
    p'.Shows .time (timeShown ms.toNat) ∧
      (myScore ≤ 99 → theirScore ≤ 99 →
        p'.Shows .score (numbersShown myScore.toNat theirScore.toNat)) := by
  obtain ⟨hleft, hright, hshown⟩ := autoNumbers_shown hms
  obtain ⟨hleft, hleft'⟩ := toNat_toUInt8_of_le hleft
  obtain ⟨hright, hright'⟩ := toNat_toUInt8_of_le hright
  rw [gamePrintTime_auto, hshown, ← hleft, ← hright]
  refine ⟨?_, fun hmy htheir => ?_⟩
  · refine (setNumbers_shows p .time hleft' hright' .colon (hbuses 0)).step _ ?_
    show DisplayAddress.score ≠ .time
    decide
  · obtain ⟨hmy, hmy'⟩ := toNat_toUInt8_of_le hmy
    obtain ⟨htheir, htheir'⟩ := toNat_toUInt8_of_le htheir
    rw [← hmy, ← htheir]
    exact setNumbers_shows _ .score hmy' htheir' .none (hbuses 1)

end

-- ---------------------------------------------------------------------------
-- The countdown
-- ---------------------------------------------------------------------------

/-- A digit appears with every second that passes, from 4 down. -/
def countShown (ms : Nat) : Nat → UInt8 := fun k =>
  if k + ms / 1000 < 5 then fontPattern (0x34 - k.toUInt8) else 0

theorem count_inFont : ∀ n ≤ 4, InFont ("4321".take n).toString := by decide +kernel

theorem textShown_count : ∀ n ≤ 4, ∀ k < 4,
    textShown ("4321".take n).toString k = if k < n then fontPattern (0x34 - k.toUInt8) else 0 := by
  decide +kernel

theorem play_inFont : InFont "PLAY" := by decide +kernel

section
variable (past : UInt8 → UInt16) (p : Panel) {buses : Nat → Bus}

/-- `game_print_start`, by the whole seconds that are left. -/
theorem gamePrintStart_eq {ms : UInt32} (hms : ms.toNat ≤ 5000) :
    gamePrintStart ms =
      .sevenSegmentSetCharDigits timeAddress 0
          ("4321".take (min (5 - ms.toNat / 1000) 4)).toString .none ::
        if ms.toNat < 1000 then [.sevenSegmentSetCharDigits scoreAddress 0 "PLAY" .none]
        else [] := by
  have hsmall : ∀ n ≤ 5, (min (UInt32.ofNat n) 4).toNat = min n 4 ∧
      (5 ≤ (UInt32.ofNat n).toInt32 ↔ 5 ≤ n) := by decide
  have hseconds : 5 - ms / 1000 = UInt32.ofNat (5 - ms.toNat / 1000) := by
    have hle : ms / 1000 ≤ 5 := UInt32.le_iff_toNat_le.mpr (Nat.div_le_of_le_mul hms)
    rw [← UInt32.ofNat_toNat (x := 5 - ms / 1000), UInt32.toNat_sub_of_le _ _ hle]
    rfl
  obtain ⟨hmin, hplay⟩ := hsmall (5 - ms.toNat / 1000) (Nat.sub_le ..)
  have hlast : 5 ≤ 5 - ms.toNat / 1000 ↔ ms.toNat < 1000 := by omega
  unfold gamePrintStart
  simp only [hseconds, hmin, hplay, hlast]

theorem countDown_shows {ms : UInt32} (hms : ms.toNat ≤ 5000)
    (hbuses : ∀ i n, (buses i).arrives n = true) :
    let p' := panelPerform past p buses (gamePrintStart ms)
    p'.Shows .time (countShown ms.toNat) ∧
      (ms.toNat < 1000 → p'.Shows .score (textShown "PLAY")) := by
  have hle : min (5 - ms.toNat / 1000) 4 ≤ 4 := Nat.min_le_right ..
  have hcount (bus : Bus) (hbus : ∀ n, bus.arrives n = true) :
      (panelStep past p (.setCharDigits .time 0
        (.ofString ("4321".take (min (5 - ms.toNat / 1000) 4)).toString) .none, bus)).Shows .time
          (countShown ms.toNat) := by
    intro k hk
    rw [setCharDigits_shows p .time (count_inFont _ hle) .none hbus k hk,
      textShown_count _ hle k hk, countShown]
    exact if_congr (by omega) rfl rfl
  rw [gamePrintStart_eq hms]
  by_cases hlast : ms.toNat < 1000
  · rw [if_pos hlast]
    refine ⟨(hcount (buses 0) (hbuses 0)).step (.setCharDigits .score 0 (.ofString "PLAY") .none)
      (by decide +kernel), fun _ => ?_⟩
    exact setCharDigits_shows _ .score play_inFont .none (hbuses 1)
  · rw [if_neg hlast]
    exact ⟨hcount (buses 0) (hbuses 0), fun h => absurd h hlast⟩

end

-- ---------------------------------------------------------------------------
-- True time
-- ---------------------------------------------------------------------------

/-- A console, with the times at which its phases started last, and the device
as the last turn of the game found it, with the time of that turn. -/
structure Timed where
  console : Console
  began : Phase → Nat
  last : Option (Device × Nat)

/-- An event at a time, in ticks from the counter's start. -/
structure TimedEvent where
  time : Nat
  event : ConsoleEvent

def Timed.boot (valueHandles : List UInt16) (panel : Panel) : Timed where
  console := ⟨deviceBoot valueHandles, panel⟩
  began := fun _ => 0
  last := none

def timedStep (t : AppTimer) (past : UInt8 → UInt16) (s : Timed) (e : TimedEvent) :
    Option (Timed × List DeviceCall) := do
  let (console, calls) ← consoleStep t past s.console e.event
  let device := s.console.device
  match e.event.event with
  | .gameTasks _ =>
    return ({
      console
      began := fun phase => if device.game.gameState = phase.entry then e.time else s.began phase
      last := some (device, e.time) }, calls)
  | _ => return ({ s with console }, calls)

def DeviceEvent.readings? : DeviceEvent → Option Readings
  | .gameTasks now => some now
  | _ => none

/-- A turn reads the counter at its time, and in a phase before the counter is
back at its value from the phase's start. -/
def TimedEvent.Reads (s : Timed) (e : TimedEvent) : Prop :=
  ∀ now ∈ e.event.event.readings?, now.first = clockReading e.time ∧
    ∀ phase : Phase, s.console.device.game.gameState = phase.state →
      s.began phase ≤ e.time ∧ e.time < s.began phase + 2 ^ 24

instance (P : Phase → Prop) [DecidablePred P] : Decidable (∀ phase, P phase) :=
  decidable_of_iff (P .countingDown ∧ P .playing ∧ P .water)
    ⟨fun ⟨hcounting, hplaying, hwater⟩ phase => by
      cases phase <;> assumption, fun h => ⟨h _, h _, h _⟩⟩

instance (s : Timed) (e : TimedEvent) : Decidable (e.Reads s) :=
  inferInstanceAs (Decidable (∀ _ ∈ _, _ ∧ ∀ _, _))

/-- The milliseconds that are left of a phase at a time. -/
def Timed.left (s : Timed) (phase : Phase) (time : Nat) : Nat :=
  ticksInMs (phase.ticks - (time - s.began phase))

/-- The displays show what the device was to show at the time. -/
structure Timed.Reports (s : Timed) (d : Device) (time : Nat) : Prop where
  countingDown : d.game.gameState = .countingDown →
    s.console.panel.Shows .time (countShown (s.left .countingDown time)) ∧
      (s.left .countingDown time < 1000 → s.console.panel.Shows .score (textShown "PLAY"))
  playing : d.game.gameState = .playing →
    s.console.panel.Shows .time (timeShown (s.left .playing time)) ∧
      (gameGetMyScore d ≤ 99 → d.theirView ≤ 99 → s.console.panel.Shows .score
        (numbersShown (gameGetMyScore d).toNat d.theirView.toNat))

/-- The game keeps the readings at the starts of its phases. -/
structure Timed.Clocked (s : Timed) : Prop where
  gameTime : s.console.device.game.gameTime = Phase.playing.ms
  began : ∀ phase : Phase, phase.startTicks s.console.device = clockReading (s.began phase)

structure Timed.Faithful (s : Timed) : Prop where
  clocked : s.Clocked
  reports : ∀ d time, s.last = some (d, time) → s.Reports d time

/-- A phase starts at the turn in its entry, and at no other. -/
theorem gameTasks_startTicks (t : AppTimer) (d : Device) (now : Readings) (phase : Phase) :
    phase.startTicks (gameTasks t d now).1 =
      if d.game.gameState = phase.entry then now.first else phase.startTicks d := by
  unfold gameTasks
  rw [gameGetTheirScore_eq]
  dsimp only
  cases hstate : d.game.gameState with
  | countingDown | playing | water =>
    -- None of these is an entry.
    refine Eq.trans ?_ (if_neg (by cases phase <;> exact nofun)).symm
    dsimp only
    split_ifs <;> cases phase <;> rfl
  | gameOver =>
    dsimp only
    by_cases hlost : gameGetMyScore d ≥ d.theirView
    · rw [if_pos hlost]
      cases phase <;> rfl
    · rw [if_neg hlost]
      cases phase <;> rfl
  | initializingGame => cases phase <;> simp [Phase.entry, Phase.startTicks]
  | _ => cases phase <;> rfl

/-- What a turn writes in a phase. -/
theorem gameTasks_shown (t : AppTimer) (d : Device) (now : Readings) (phase : Phase)
    (hstate : d.game.gameState = phase.state)
    (htime : d.game.gameTime = Phase.playing.ms) :
    (gameTasks t d now).2 = phase.shown d (phase.msLeft t d now.first) := by
  unfold gameTasks
  rw [gameGetTheirScore_eq]
  cases phase with
  | countingDown => simp only [hstate, Phase.state]; rfl
  | playing => simp only [hstate, Phase.state, htime]; rfl
  | water => simp only [hstate, Phase.state]; split <;> rfl

theorem startTicks_of_readings {d d' : Device} (h : d'.game.readings = d.game.readings)
    (phase : Phase) : phase.startTicks d' = phase.startTicks d := by
  obtain ⟨hinit, hstart, hwater⟩ := Prod.mk.inj h |>.imp id Prod.mk.inj
  cases phase with
  | countingDown => exact hinit
  | playing => exact hstart
  | water => exact hwater

theorem Phase.state_ne_entry (phase phase' : Phase) : phase.state ≠ phase'.entry := by
  cases phase <;> cases phase' <;> decide

structure Timed.Turned (t : AppTimer) (past : UInt8 → UInt16) (s : Timed) (e : TimedEvent)
    (now : Readings) (s' : Timed) (calls : List DeviceCall) : Prop where
  event : e.event.event = .gameTasks now
  device : s'.console.device = (gameTasks t s.console.device now).1
  written : calls = (gameTasks t s.console.device now).2
  panel : s'.console.panel = panelPerform past s.console.panel e.event.buses calls
  began : ∀ phase, s'.began phase =
    if s.console.device.game.gameState = phase.entry then e.time else s.began phase
  last : s'.last = some (s.console.device, e.time)

structure Timed.Stayed (s : Timed) (e : TimedEvent) (s' : Timed) (calls : List DeviceCall) :
    Prop where
  event : ∀ now, e.event.event ≠ .gameTasks now
  toRadio : ToRadio calls
  gameTime : s'.console.device.game.gameTime = s.console.device.game.gameTime
  readings : s'.console.device.game.readings = s.console.device.game.readings
  panel : s'.console.panel = s.console.panel
  began : s'.began = s.began
  last : s'.last = s.last

section
variable {t : AppTimer} {past : UInt8 → UInt16} {s s' : Timed} {e : TimedEvent}
  {calls : List DeviceCall}

theorem timedStep_cases (h : timedStep t past s e = some (s', calls)) :
    (∃ now, s.Turned t past e now s' calls) ∨ s.Stayed e s' calls := by
  obtain ⟨⟨⟨device, panel⟩, out⟩, hconsole, h⟩ := Option.bind_eq_some_iff.mp h
  obtain ⟨hstep, hpanel⟩ := consoleStep_eq_some hconsole
  dsimp only at hstep hpanel h
  by_cases hturn : ∃ now, e.event.event = .gameTasks now
  · obtain ⟨now, hnow⟩ := hturn
    rw [hnow] at hstep h
    obtain ⟨hdevice, hcalls⟩ := Prod.mk.inj (Option.some.inj hstep).symm
    cases h
    exact .inl ⟨now, hnow, hdevice, hcalls, hpanel, fun _ => rfl, rfl⟩
  · have hother : ∀ now, e.event.event ≠ .gameTasks now := fun now hnow => hturn ⟨now, hnow⟩
    have hradio := deviceStep_toRadio hother hstep
    rw [hradio.panelPerform] at hpanel
    split at h
    case h_1 now hnow => exact absurd hnow (hother now)
    case h_2 =>
      cases h
      exact .inr ⟨hother, hradio, deviceStep_gameTime hstep,
        (deviceStep_between hother hstep).readings, hpanel, rfl, rfl⟩

theorem Timed.left_le (s : Timed) (phase : Phase) (time : Nat) :
    s.left phase time ≤ phase.ms.toNat := by
  rw [← phase.ticksInMs_ticks]
  exact ticksInMs_mono (Nat.sub_le ..)

theorem Timed.Clocked.shown (ht : t.IsSdk) (h : s.Clocked) {now : Readings}
    (hturned : s.Turned t past e now s' calls) (hreads : e.Reads s) {phase : Phase}
    (hstate : s.console.device.game.gameState = phase.state) :
    ∃ ms : UInt32, ms.toNat = s.left phase e.time ∧ calls = phase.shown s.console.device ms := by
  obtain ⟨hfirst, hreach⟩ := hreads now (by rw [hturned.event]; rfl)
  obtain ⟨hle, hlt⟩ := hreach phase hstate
  refine ⟨phase.msLeft t s.console.device now.first, ?_, ?_⟩
  · unfold Phase.msLeft
    rw [hfirst, ht.toNat_msUntil, h.began, ht.ticksSince_reading hle hlt, ht.toNat_phaseTicks]
    rfl
  · rw [hturned.written, gameTasks_shown t _ now phase hstate h.gameTime]

theorem Timed.Turned.left {now : Readings} (h : s.Turned t past e now s' calls) {phase : Phase}
    (hstate : s.console.device.game.gameState = phase.state) (time : Nat) :
    s'.left phase time = s.left phase time := by
  rw [Timed.left, Timed.left, h.began, if_neg (hstate ▸ phase.state_ne_entry phase)]

theorem Timed.Clocked.boot (valueHandles : List UInt16) (p : Panel) :
    (Timed.boot valueHandles p).Clocked where
  gameTime := rfl
  began phase := by
    cases phase with
    | countingDown => rfl
    | playing => rfl
    | water => rfl

theorem Timed.Clocked.step (h : s.Clocked) (hreads : e.Reads s)
    (hstep : timedStep t past s e = some (s', calls)) : s'.Clocked := by
  obtain ⟨now, hturned⟩ | hstayed := timedStep_cases hstep
  · obtain ⟨hfirst, -⟩ := hreads now (by rw [hturned.event]; rfl)
    refine ⟨?_, fun phase => ?_⟩
    · rw [hturned.device]
      exact (gameTasks_turn t s.console.device now).gameTime.trans h.gameTime
    · rw [hturned.device, gameTasks_startTicks, hfirst, h.began, hturned.began]
      exact (apply_ite clockReading _ _ _).symm
  · refine ⟨hstayed.gameTime.trans h.gameTime, fun phase => ?_⟩
    rw [startTicks_of_readings hstayed.readings phase, hstayed.began, h.began]

theorem Timed.Faithful.step (ht : t.IsSdk) (h : s.Faithful) (hreads : e.Reads s)
    (harrives : e.event.Arrives) (hstep : timedStep t past s e = some (s', calls)) :
    s'.Faithful := by
  refine ⟨h.clocked.step hreads hstep, fun d time hlast => ?_⟩
  obtain ⟨now, hturned⟩ | hstayed := timedStep_cases hstep
  · obtain ⟨rfl, rfl⟩ := Prod.mk.inj (Option.some.inj (hturned.last.symm.trans hlast))
    constructor
    · intro hstate
      have hphase : s.console.device.game.gameState = Phase.countingDown.state := hstate
      obtain ⟨ms, hms, hcalls⟩ := h.clocked.shown ht hturned hreads hphase
      have hle : ms.toNat ≤ 5000 := hms ▸ s.left_le .countingDown e.time
      rw [hturned.panel, hcalls, hturned.left hphase, ← hms]
      exact countDown_shows past s.console.panel hle harrives
    · intro hstate
      have hphase : s.console.device.game.gameState = Phase.playing.state := hstate
      obtain ⟨ms, hms, hcalls⟩ := h.clocked.shown ht hturned hreads hphase
      have hle : ms.toNat ≤ 60000 := hms ▸ s.left_le .playing e.time
      rw [hturned.panel, hcalls, hturned.left hphase, ← hms]
      exact play_shows past s.console.panel hle _ _ harrives
  · obtain ⟨hcounting, hplaying⟩ := h.reports d time (hstayed.last ▸ hlast)
    simp only [Timed.left, ← hstayed.panel, ← hstayed.began] at hcounting hplaying
    exact ⟨hcounting, hplaying⟩

end

/-- Let every write get to its display, and the turns of a phase come before the
counter is back at its start. Then from the boot on, whatever the order of
events and whatever the displays had before: from a turn in the countdown or in
the game up to the next turn, they show what was left in true time, the
countdown in seconds and the game in hundredths, and next to the game's time
the two scores, as long as these have two digits. -/
theorem console_tells_time (t : AppTimer) (ht : t.IsSdk) (past : UInt8 → UInt16)
    (valueHandles : List UInt16) (p : Panel) (events : List TimedEvent)
    (hevents : Runs.Guarded (timedStep t past) (fun s e => e.Reads s) (.boot valueHandles p) events)
    (harrives : ∀ e ∈ events, e.event.Arrives)
    (hrun : Runs.run (timedStep t past) (.boot valueHandles p) events = some (s, calls))
    (hlast : s.last = some (d, time)) :
    (d.game.gameState = .countingDown →
      s.console.panel.Shows .time (countShown (s.left .countingDown time)) ∧
        (s.left .countingDown time < 1000 → s.console.panel.Shows .score (textShown "PLAY"))) ∧
    (d.game.gameState = .playing →
      s.console.panel.Shows .time (timeShown (s.left .playing time)) ∧
        (gameGetMyScore d ≤ 99 → d.theirView ≤ 99 → s.console.panel.Shows .score
          (numbersShown (gameGetMyScore d).toNat d.theirView.toNat))) := by
  have hfaithful : s.Faithful := (hevents.and_forall harrives).keeps (P := Timed.Faithful)
    (fun _ _ _ _ h hevent hstep => h.step ht hevent.1 hevent.2 hstep)
    ⟨.boot valueHandles p, fun _ _ hlast => by cases hlast⟩ hrun
  obtain ⟨hcounting, hplaying⟩ := hfaithful.reports d time hlast
  exact ⟨hcounting, hplaying⟩

def halfAGame : List TimedEvent :=
  [(0, poll 0), (0, .button .button2 .push), (0, poll 0), (163840, poll 163840),
    (163840, poll 163840), (1146880, poll 1146880), (1146900, .button .button3 .push)].map
    fun event => ⟨event.1, event.2, fun _ => .clear⟩

theorem console_tells_time_halfAGame : ∃ s calls,
    Runs.run (timedStep appTimerSdk fun _ => 0) (.boot [] ⟨sevenSegmentInit.1, fun _ => 0xAA⟩)
        halfAGame = some (s, calls) ∧
      s.console.panel.Shows .time (numbersShown 30 0) ∧
      s.console.panel.Shows .score (numbersShown 0 0) := by
  let boot : Timed := .boot [] ⟨sevenSegmentInit.1, fun _ => 0xAA⟩
  have hrun : (Runs.run (timedStep appTimerSdk fun _ => 0) boot halfAGame).isSome := by
    decide +kernel
  obtain ⟨⟨s, calls⟩, h⟩ := Option.isSome_iff_exists.mp hrun
  have hend : ∀ r ∈ Runs.run (timedStep appTimerSdk fun _ => 0) boot halfAGame,
      r.1.last.map (fun last => (last.1.game.gameState, gameGetMyScore last.1, last.1.theirView,
        last.2)) = some (.playing, 0, 0, 1146880) ∧ r.1.left .playing 1146880 = 30000 := by
    decide +kernel
  obtain ⟨hlast, hleft⟩ := hend (s, calls) h
  obtain ⟨⟨d, time⟩, hlast, hturn⟩ := Option.map_eq_some_iff.mp hlast
  obtain ⟨hstate, hmy, htheir, rfl⟩ : d.game.gameState = .playing ∧ gameGetMyScore d = 0 ∧
      d.theirView = 0 ∧ time = 1146880 := by simpa using hturn
  have harrives : ∀ e ∈ halfAGame, e.event.Arrives := by
    intro e he
    obtain ⟨event, -, rfl⟩ := List.mem_map.mp he
    exact fun _ => Bus.clear_arrives
  obtain ⟨htime, hscore⟩ := (console_tells_time appTimerSdk appTimerSdk_isSdk (fun _ => 0) [] _
    halfAGame (by decide +kernel) harrives h hlast).2 hstate
  rw [hleft] at htime
  rw [hmy, htheir] at hscore
  exact ⟨s, calls, h, htime, hscore (by decide) (by decide)⟩

end WaterBall
