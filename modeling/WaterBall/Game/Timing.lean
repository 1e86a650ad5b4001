import WaterBall.Support.Polling
import WaterBall.Service.Registers
import WaterBall.Game.ClockLaws
import WaterBall.Game.DeviceLaws

/-!
# Phases that end by the clock

The tick counter has 24 bits and wraps every 512 seconds. A phase is ended by
the first turn of the game that finds its time passed, and the counter's
difference is the true one at that turn, as long as turns are not so far apart
that it wraps in between.
-/

namespace WaterBall

open Support Polling

-- ---------------------------------------------------------------------------
-- The counter
-- ---------------------------------------------------------------------------

/-- What `app_timer_cnt_get` reads at a time, in ticks from the counter's start. -/
def clockReading (time : Nat) : UInt32 := UInt32.ofNat (time % 2 ^ 24)

theorem AppTimer.IsSdk.ticksSince_reading {t : AppTimer} (ht : t.IsSdk) (hle : start ≤ time)
    (hlt : time < start + 2 ^ 24) :
    (clockTicksSince t (clockReading time) (clockReading start)).toNat =
      time - start := by
  have hread : ∀ n, (clockReading n).toNat = n % 2 ^ 24 := by
    intro n
    rw [clockReading, UInt32.toNat_ofNat', Nat.mod_eq_of_lt]
    omega
  rw [ht.toNat_ticksSince, UInt32.toNat_sub, hread, hread]
  omega

-- ---------------------------------------------------------------------------
-- Phases
-- ---------------------------------------------------------------------------

inductive Phase
  | countingDown
  | playing
  | water
  deriving DecidableEq, Repr

namespace Phase

def entry : Phase → GameState
  | countingDown => .initializingGame
  | playing => .start
  | water => .gameOver

def state : Phase → GameState
  | countingDown => .countingDown
  | playing => .playing
  | water => .water

def exit : Phase → GameState
  | countingDown => .start
  | playing => .gameOver
  | water => .init

def ms : Phase → UInt32
  | countingDown => 5000
  | playing => 60000
  | water => 7000

def startTicks (d : Device) : Phase → UInt32
  | countingDown => d.game.gameInitTicks
  | playing => d.game.gameStartTicks
  | water => d.game.waterStartTicks

def ticks (phase : Phase) : Nat := msInTicks phase.ms.toNat

/-- The time left, as a turn obtains it from `clock_ms_until`. -/
def msLeft (t : AppTimer) (phase : Phase) (d : Device) (now : UInt32) : UInt32 :=
  clockMsUntil t now (phase.startTicks d) (clockMsInTicks t phase.ms)

def shown (d : Device) (ms : UInt32) : Phase → List DeviceCall
  | countingDown => gamePrintStart ms
  | playing => gamePrintTime ms .auto ++ gamePrintScore d.game.myScore d.theirView
  | water => []

/-- No score ends the game, and its length is the one that it is initialised with. -/
def Calm (d : Device) (phase : Phase) : Prop :=
  phase = playing →
    d.game.gameTime = playing.ms ∧ d.game.myScore ≠ maxScore ∧ d.theirView ≠ maxScore

end Phase

theorem Phase.Calm.refreshed {phase : Phase} {d d' : Device} (hcalm : phase.Calm d)
    (htime : d'.game.gameTime = d.game.gameTime)
    (hmy : d'.game.myScore = d.game.myScore)
    (hserver : d'.server = d.server) (hclient : d'.client = d.client)
    (hscore : d'.game.theirScore = d.theirView) : phase.Calm d' := by
  intro hplaying
  rw [htime, hmy, theirView_refreshed hserver hclient hscore]
  exact hcalm hplaying

theorem gameTasks_entry (t : AppTimer) (phase : Phase) (d : Device) (now : Readings)
    (hentry : d.game.gameState = phase.entry) (hcalm : phase.Calm d) :
    (gameTasks t d now).1.game.gameState = phase.state ∧
      phase.startTicks (gameTasks t d now).1 = now.first ∧
      phase.Calm (gameTasks t d now).1 := by
  unfold gameTasks
  rw [gameGetTheirScore_eq]
  cases phase with
  | countingDown =>
    simp only [hentry, Phase.entry]
    exact ⟨rfl, by simp [Phase.startTicks], nofun⟩
  | playing =>
    simp only [hentry, Phase.entry]
    exact ⟨rfl, rfl, hcalm.refreshed rfl rfl rfl rfl rfl⟩
  | water =>
    simp only [hentry, Phase.entry]
    split
    · exact ⟨rfl, rfl, nofun⟩
    · exact ⟨rfl, rfl, nofun⟩

theorem gameTasks_phase (t : AppTimer) (phase : Phase) (d : Device) (now : UInt32)
    (hstate : d.game.gameState = phase.state) (hcalm : phase.Calm d) :
    (gameTasks t d ⟨now, now⟩).1.game.gameState =
        (if clockTicksHavePassed t now (phase.startTicks d)
          (clockMsInTicks t phase.ms) then phase.exit else phase.state) ∧
      (gameTasks t d ⟨now, now⟩).2 = phase.shown d (phase.msLeft t d now) ∧
      phase.startTicks (gameTasks t d ⟨now, now⟩).1 = phase.startTicks d ∧
      phase.Calm (gameTasks t d ⟨now, now⟩).1 := by
  unfold gameTasks
  rw [gameGetTheirScore_eq]
  cases phase with
  | countingDown =>
    simp only [hstate, Phase.state]
    split
    case isTrue hpassed => exact ⟨(if_pos hpassed).symm, rfl, rfl, nofun⟩
    case isFalse hleft => exact ⟨(if_neg hleft).symm, rfl, rfl, nofun⟩
  | playing =>
    obtain ⟨htime, hmy, htheir⟩ := hcalm rfl
    have hscores : ¬ (maxScore = d.game.myScore ∨ maxScore = d.theirView) := by
      rintro (h | h)
      · exact hmy h.symm
      · exact htheir h.symm
    simp only [hstate, Phase.state, gameGetMyScore, if_neg hscores, htime]
    split
    case isTrue hpassed =>
      exact ⟨(if_pos hpassed).symm, rfl, rfl, hcalm.refreshed htime.symm rfl rfl rfl rfl⟩
    case isFalse hleft =>
      exact ⟨(if_neg hleft).symm, rfl, rfl, hcalm.refreshed htime.symm rfl rfl rfl rfl⟩
  | water =>
    simp only [hstate, Phase.state]
    split
    case isTrue hpassed => exact ⟨(if_pos hpassed).symm, rfl, rfl, nofun⟩
    case isFalse hleft => exact ⟨(if_neg hleft).symm, rfl, rfl, nofun⟩

-- ---------------------------------------------------------------------------
-- The length of a game
-- ---------------------------------------------------------------------------

theorem GameTurn.gameTime (h : GameTurn d d' calls) : d'.game.gameTime = d.game.gameTime := by
  cases h with
  | begin ticks hstate hset =>
    have hgame := congrArg (fun r => r.1.game.gameTime) hset
    simpa using hgame.symm
  | _ => rfl

theorem gameEventHandler_gameTime (d : Device) (pin : Button) (action : ButtonAction) :
    (gameEventHandler d pin action).1.game.gameTime = d.game.gameTime := by
  unfold gameEventHandler
  split
  · rfl
  cases pin with
  | button1 => rfl
  | button2 =>
    dsimp only
    split <;> rfl
  | button3 =>
    dsimp only
    split
    · simp [gameIncrementMyScore_eq]
    · rfl
  | button4 =>
    dsimp only
    split
    · rfl
    split
    · simp
    · rfl

theorem deviceStep_gameTime (h : deviceStep t d event = some (d', calls)) :
    d'.game.gameTime = d.game.gameTime := by
  have hof {r : Device × List DeviceCall} (hr : some r = some (d', calls)) :=
    Runs.state_of_result (P := fun d' => d'.game.gameTime = d.game.gameTime) hr
  cases event with
  | button pin action => exact hof h (gameEventHandler_gameTime d pin action)
  | gameTasks now => exact hof h (gameTasks_turn t d now).gameTime
  | serviceTasks => exact hof h rfl
  | setMyScore score => exact hof h (by simp)
  | incrementMyScore points => exact hof h (by simp [gameIncrementMyScore_eq])
  | tryConnect => exact hof h rfl
  | ble evt uninit =>
    rcases serviceOnBleEvt_state h with
      ⟨-, client, server, rfl⟩ | ⟨data, state, client, server, -, -, rfl⟩
    · rfl
    · rfl

/-- The peer's game time is another: a server takes it and tells it, and plays
for its own. -/
theorem gameGetGameTime_written (hserver : d.isServiceServer = true) (value : UInt32)
    (beyond : List UInt8) (uninit : UInt32) :
    ∃ d' calls, deviceStep t d (.ble (.gattsAuthorizeWrite serviceGameTimeUuid
        (LittleEndian.wordBytes value) beyond) uninit) = some (d', calls) ∧
      gameGetGameTime d' = value ∧ d'.game.gameTime = d.game.gameTime := by
  have hclient : serviceClientOnBleEvt uninit d.client (.gattsAuthorizeWrite
      serviceGameTimeUuid (LittleEndian.wordBytes value) beyond) = some (d.client, []) := rfl
  have hserved : serviceServerOnBleEvt d.server (.gattsAuthorizeWrite serviceGameTimeUuid
      (LittleEndian.wordBytes value) beyond) = some (Register.gameTime.set d.server value,
        [.gattsReplyWrite d.server.connHandle .success true]) := by
    have hwrite := serviceServer_write .gameTime d.server (LittleEndian.length_wordBytes value)
      beyond
    rwa [LittleEndian.word_wordBytes_self] at hwrite
  refine ⟨{ d with server := Register.gameTime.set d.server value },
    [.server (.gattsReplyWrite d.server.connHandle .success true)], ?_, if_pos hserver, rfl⟩
  simp only [deviceStep, serviceOnBleEvt, hclient, gameTakeState, List.foldl_nil, hserved,
    Option.bind_eq_bind, Option.bind_some, Option.pure_def, List.map_nil, List.map_cons,
    List.nil_append]

-- ---------------------------------------------------------------------------
-- Polls
-- ---------------------------------------------------------------------------

/-- A turn of the game at a time, all its readings equal. -/
def poll (time : Nat) : DeviceEvent := .gameTasks ⟨clockReading time, clockReading time⟩

def pollGap : Nat := 2 ^ 24 - msInTicks 60000

/-- The phase was started by the turn at the time `start`. -/
structure InPhase (phase : Phase) (start : Nat) (d : Device) : Prop where
  state : d.game.gameState = phase.state
  startTicks : phase.startTicks d = clockReading start
  calm : phase.Calm d

theorem Phase.ticks_le (phase : Phase) : phase.ticks + pollGap ≤ 2 ^ 24 := by
  cases phase <;> decide +kernel

theorem Phase.ticksInMs_ticks (phase : Phase) : ticksInMs phase.ticks = phase.ms.toNat := by
  rw [Phase.ticks, ticksInMs_msInTicks]

theorem AppTimer.IsSdk.toNat_phaseTicks {t : AppTimer} (ht : t.IsSdk) (phase : Phase) :
    (clockMsInTicks t phase.ms).toNat = phase.ticks := by
  have hshort : phase.ms.toNat ≤ 131071999 := by cases phase <;> decide
  exact ht.toNat_msInTicks_of_lt ((msInTicks_lt_iff _).mpr hshort)

section
variable {t : AppTimer} {phase : Phase} {start time : Nat} {earlier : List Nat} {d : Device}

theorem Phase.lt_wrap (hspaced : Spaced pollGap (start :: (earlier ++ [time])))
    (hearlier : ∀ poll ∈ earlier, poll < start + phase.ticks) : time < start + 2 ^ 24 := by
  have hnext := hspaced.next_lt (Nat.le_add_right start phase.ticks)
    fun poll hpoll => Nat.le_of_lt (hearlier poll hpoll)
  have := phase.ticks_le
  omega

theorem InPhase.msLeft (ht : t.IsSdk) (h : InPhase phase start d) (hle : start ≤ time)
    (hlt : time < start + 2 ^ 24) : (phase.msLeft t d (clockReading time)).toNat =
      ticksInMs (phase.ticks - (time - start)) := by
  unfold Phase.msLeft
  rw [ht.toNat_msUntil, h.startTicks, ht.ticksSince_reading hle hlt, ht.toNat_phaseTicks]

theorem InPhase.msLeft_le_ms (ht : t.IsSdk) (h : InPhase phase start d) (hle : start ≤ time)
    (hlt : time < start + 2 ^ 24) : phase.msLeft t d (clockReading time) ≤ phase.ms := by
  rw [UInt32.le_iff_toNat_le, h.msLeft ht hle hlt, ← phase.ticksInMs_ticks]
  exact ticksInMs_mono (Nat.sub_le phase.ticks (time - start))

theorem InPhase.msLeft_le (ht : t.IsSdk) (h : InPhase phase start d)
    (h' : InPhase phase start d') (hle : start ≤ time) (hlater : time ≤ time')
    (hlt : time' < start + 2 ^ 24) :
    phase.msLeft t d' (clockReading time') ≤ phase.msLeft t d (clockReading time) := by
  rw [UInt32.le_iff_toNat_le, h'.msLeft ht (Nat.le_trans hle hlater) hlt,
    h.msLeft ht hle (Nat.lt_of_le_of_lt hlater hlt)]
  exact ticksInMs_mono (Nat.sub_le_sub_left (Nat.sub_le_sub_right hlater start) phase.ticks)

theorem InPhase.poll (ht : t.IsSdk) (h : InPhase phase start d) (hle : start ≤ time)
    (hlt : time < start + 2 ^ 24) :
    ∃ d' calls, deviceStep t d (poll time) = some (d', calls) ∧
      d'.game.gameState = (if start + phase.ticks ≤ time then phase.exit else phase.state) ∧
      calls = phase.shown d (phase.msLeft t d (clockReading time)) ∧
      (time < start + phase.ticks → InPhase phase start d') := by
  obtain ⟨hstate, hshown, hstart, hcalm⟩ :=
    gameTasks_phase t phase d (clockReading time) h.state h.calm
  have hpassed : (clockTicksHavePassed t (clockReading time) (phase.startTicks d)
      (clockMsInTicks t phase.ms) = true) = (start + phase.ticks ≤ time) := by
    rw [clockTicksHavePassed_iff, h.startTicks, ht.ticksSince_reading hle hlt, ht.toNat_phaseTicks,
      Nat.le_sub_iff_add_le hle, Nat.add_comm]
  simp only [hpassed] at hstate
  refine ⟨_, _, rfl, hstate, hshown, fun hbefore => ?_⟩
  exact ⟨hstate.trans (if_neg (Nat.not_le_of_lt hbefore)), hstart.trans h.startTicks, hcalm⟩

theorem InPhase.run (ht : t.IsSdk) (h : InPhase phase start d)
    (hearlier : ∀ poll ∈ earlier, start ≤ poll ∧ poll < start + phase.ticks) :
    ∃ d' calls, Runs.run (deviceStep t) d (earlier.map WaterBall.poll) =
      some (d', calls) ∧ InPhase phase start d' := by
  induction earlier generalizing d with
  | nil => exact ⟨d, [], rfl, h⟩
  | cons time earlier ih =>
    obtain ⟨⟨hle, hlt⟩, hearlier⟩ := List.forall_mem_cons.mp hearlier
    have hwrap : time < start + 2 ^ 24 := by
      have := phase.ticks_le
      omega
    obtain ⟨d', out, hstep, -, -, hstays⟩ := h.poll ht hle hwrap
    obtain ⟨d'', rest, hrun, hphase⟩ := ih (hstays hlt) hearlier
    exact ⟨d'', out ++ rest, Runs.run_cons_eq_some.mpr ⟨d', out, rest, hstep, hrun, rfl⟩, hphase⟩

theorem InPhase.of_entry (ht : t.IsSdk) (hentry : d.game.gameState = phase.entry)
    (hcalm : phase.Calm d)
    (hearlier : ∀ poll ∈ earlier, start ≤ poll ∧ poll < start + phase.ticks) :
    ∃ d' calls, Runs.run (deviceStep t) d ((start :: earlier).map WaterBall.poll) =
      some (d', calls) ∧ InPhase phase start d' := by
  obtain ⟨hstate, hstart, hcalm'⟩ :=
    gameTasks_entry t phase d ⟨clockReading start, clockReading start⟩ hentry hcalm
  obtain ⟨d', rest, hrun, hphase⟩ := InPhase.run ht ⟨hstate, hstart, hcalm'⟩ hearlier
  exact ⟨d', _, Runs.run_cons_eq_some.mpr ⟨_, _, rest, rfl, hrun, rfl⟩, hphase⟩

end

/-- From any state that a device can be in when a phase starts: the first turn
at or behind the phase's end ends it, the ones before do not, and the time left
starts at no more than the phase's length and never grows. -/
theorem phase_ends_on_time (t : AppTimer) (ht : t.IsSdk) (valueHandles : List UInt16)
    (history : List DeviceEvent) (d : Device) (past : List DeviceCall)
    (hhistory : Runs.run (deviceStep t) (deviceBoot valueHandles) history = some (d, past))
    (phase : Phase) (hentry : d.game.gameState = phase.entry)
    (hscores : phase = .playing → gameGetMyScore d ≠ maxScore ∧ (gameGetTheirScore d).1 ≠ maxScore)
    (start : Nat) (earlier : List Nat) (time : Nat)
    (hspaced : Spaced pollGap (start :: (earlier ++ [time])))
    (hearlier : ∀ poll ∈ earlier, poll < start + phase.ticks) :
    ∃ d₁ calls₁ d₂ calls₂,
      Runs.run (deviceStep t) d ((start :: earlier).map poll) = some (d₁, calls₁) ∧
      deviceStep t d₁ (poll time) = some (d₂, calls₂) ∧
      d₁.game.gameState = phase.state ∧
      d₂.game.gameState = (if start + phase.ticks ≤ time then phase.exit else phase.state) ∧
      calls₂ = phase.shown d₁ (phase.msLeft t d₁ (clockReading time)) ∧
      phase.msLeft t d₁ (clockReading time) ≤ phase.ms ∧
      ∀ before last, earlier = before ++ [last] → ∃ d₀ calls₀,
        Runs.run (deviceStep t) d ((start :: before).map poll) = some (d₀, calls₀) ∧
        phase.msLeft t d₁ (clockReading time) ≤ phase.msLeft t d₀ (clockReading last) := by
  have htime : d.game.gameTime = Phase.playing.ms :=
    Runs.keeps (P := fun d => d.game.gameTime = Phase.playing.ms)
      (fun _ _ _ _ htime hstep => (deviceStep_gameTime hstep).trans htime) rfl hhistory
  have hcalm : phase.Calm d := fun hplaying => ⟨htime, hscores hplaying⟩
  have hle : ∀ poll ∈ earlier ++ [time], start ≤ poll := hspaced.start_le
  have hinside : ∀ poll ∈ earlier, start ≤ poll ∧ poll < start + phase.ticks :=
    fun poll hpoll => ⟨hle poll (List.mem_append_left _ hpoll), hearlier poll hpoll⟩
  have hstart : start ≤ time := hle time (by simp)
  have hwrap : time < start + 2 ^ 24 := Phase.lt_wrap hspaced hearlier
  obtain ⟨d₁, calls₁, hrun, hphase⟩ := InPhase.of_entry ht hentry hcalm hinside
  obtain ⟨d₂, calls₂, hstep, hstate, hshown, -⟩ := hphase.poll ht hstart hwrap
  refine ⟨d₁, calls₁, d₂, calls₂, hrun, hstep, hphase.state, hstate, hshown,
    hphase.msLeft_le_ms ht hstart hwrap, ?_⟩
  rintro before last rfl
  have hinside' : ∀ poll ∈ before, start ≤ poll ∧ poll < start + phase.ticks :=
    fun poll hpoll => hinside poll (List.mem_append_left _ hpoll)
  obtain ⟨d₀, calls₀, hrun₀, hphase₀⟩ := InPhase.of_entry ht hentry hcalm hinside'
  refine ⟨d₀, calls₀, hrun₀, ?_⟩
  have hnext : last ≤ time := by
    have hsplit : start :: (before ++ [last] ++ [time]) = (start :: before) ++ [last, time] := by
      simp
    rw [hsplit] at hspaced
    exact hspaced.last_le
  exact hphase₀.msLeft_le ht hphase (hinside last (by simp)).1 hnext hwrap

def countedDown : List DeviceEvent :=
  [poll 0, .button .button2 .push, poll 5, poll 163845]

theorem phase_ends_on_time_wrapped : ∃ d past d₁ calls₁ d₂ calls₂,
    Runs.run (deviceStep appTimerSdk) (deviceBoot []) countedDown = some (d, past) ∧
      Runs.run (deviceStep appTimerSdk) d ([16777200, 16777300, 18743279].map poll) =
        some (d₁, calls₁) ∧
      deviceStep appTimerSdk d₁ (poll 18743280) = some (d₂, calls₂) ∧
      d₁.game.gameState = .playing ∧ d₂.game.gameState = .gameOver := by
  have hfinal : (Runs.run (deviceStep appTimerSdk) (deviceBoot []) countedDown).map
      (fun final => (final.1.game.gameState, gameGetMyScore final.1,
        (gameGetTheirScore final.1).1)) = some (.start, 0, 0) := by
    decide +kernel
  obtain ⟨⟨d, past⟩, hrun, heq⟩ := Option.map_eq_some_iff.mp hfinal
  obtain ⟨hentry, hmy, htheir⟩ : d.game.gameState = .start ∧ gameGetMyScore d = 0 ∧
      (gameGetTheirScore d).1 = 0 := by simpa using heq
  have hscores : gameGetMyScore d ≠ maxScore ∧ (gameGetTheirScore d).1 ≠ maxScore := by
    rw [hmy, htheir]
    decide
  have hticks : Phase.playing.ticks = 1966080 := by simp [Phase.ticks, Phase.ms, msInTicks_eq]
  have hearlier : ∀ poll ∈ [16777300, 18743279], poll < 16777200 + Phase.playing.ticks := by
    rw [hticks]
    decide
  obtain ⟨d₁, calls₁, d₂, calls₂, hrun₁, hstep, hstate, hstate', -⟩ :=
    phase_ends_on_time appTimerSdk appTimerSdk_isSdk [] countedDown d past hrun .playing hentry
      (fun _ => hscores) 16777200 [16777300, 18743279] 18743280 (by decide +kernel) hearlier
  rw [hticks] at hstate'
  exact ⟨d, past, d₁, calls₁, d₂, calls₂, hrun, hrun₁, hstep, hstate, hstate'⟩

end WaterBall
