import WaterBall.Display.Text
import WaterBall.Game.ScoreDisplay
import WaterBall.Game.WaterLaws

/-!
# A device with its displays

What the players see: the calls of the game reach a panel, and in the two
states in which the game waits the panel says what the game and the water do.
-/

namespace WaterBall

open Support RegisterFile

-- ---------------------------------------------------------------------------
-- What a panel shows
-- ---------------------------------------------------------------------------

/-- What the four digits of a display show. -/
def Panel.Shows (p : Panel) (address : DisplayAddress) (content : Nat → UInt8) : Prop :=
  ∀ k < 4, p.registers (address, digitRegister k) = content k

def blank : Nat → UInt8 := fun _ => 0

def textShown (text : String) : Nat → UInt8 := textDigit 0 (CString.ofString text).bytes

def InFont (text : String) : Prop := ∀ data ∈ (CString.ofString text).bytes, data < 0x80

instance : DecidablePred InFont := fun _ => inferInstanceAs (Decidable (∀ _ ∈ _, _))

section
variable {past : UInt8 → UInt16} {p : Panel} {address : DisplayAddress} {bus : Bus}

theorem setCharDigits_shows (p : Panel) (address : DisplayAddress) {text : String}
    (htext : InFont text) (colonType : ColonType) (hbus : ∀ n, bus.arrives n = true) :
    (panelStep past p (.setCharDigits address 0 (.ofString text) colonType, bus)).Shows address
      (textShown text) := fun _ hk =>
  panelStep_digits p (setCharDigits_digitWrites (by decide) htext) hbus hk

theorem blankDigits_shows (p : Panel) (address : DisplayAddress)
    (hbus : ∀ n, bus.arrives n = true) :
    (panelStep past p (.blankDigits address, bus)).Shows address blank := by
  have hwrites : displayWrites ((DisplayCall.blankDigits address).digitEffects past) =
      (List.range' 0 4).map fun i => digitWrite address i (blank i) :=
    blankLoop_writes (Nat.le_refl 4)
  exact fun _ hk => panelStep_digits p hwrites hbus hk

theorem Panel.Shows.step (h : p.Shows address content) (call : DisplayCall)
    (hother : call.address ≠ address) : (panelStep past p (call, bus)).Shows address content :=
  fun k hk => (panelStep_other past p call bus hother _).trans (h k hk)

end

theorem DisplayAddress.forall_iff {P : DisplayAddress → Prop} :
    (∀ address, P address) ↔ P .time ∧ P .score := by
  refine ⟨fun h => ⟨h _, h _⟩, ?_⟩
  rintro ⟨htime, hscore⟩ ⟨_, rfl | rfl⟩
  · exact htime
  · exact hscore

-- ---------------------------------------------------------------------------
-- Calls to the radio
-- ---------------------------------------------------------------------------

def DeviceCall.isRadio : DeviceCall → Bool
  | .server _ | .client _ => true
  | _ => false

/-- The calls are to the radio alone, so that no display shows anything else
and nothing is logged. -/
def ToRadio (calls : List DeviceCall) : Prop := ∀ call ∈ calls, call.isRadio = true

theorem ToRadio.filterMap {calls : List DeviceCall} (h : ToRadio calls) :
    calls.filterMap DeviceCall.displayCall? = [] := by
  refine List.filterMap_eq_nil_iff.mpr fun call hcall => ?_
  have hradio := h call hcall
  cases call with
  | server | client => rfl
  | _ => cases hradio

theorem ToRadio.panelPerform {calls : List DeviceCall} (h : ToRadio calls)
    (past : UInt8 → UInt16) (p : Panel) (buses : Nat → Bus) :
    panelPerform past p buses calls = p := by
  rw [WaterBall.panelPerform, h.filterMap]
  rfl

theorem toRadio_server (calls : List ServerCall) : ToRadio (calls.map .server) := by
  intro call hcall
  obtain ⟨_, -, rfl⟩ := List.mem_map.mp hcall
  rfl

theorem toRadio_client (calls : List ClientCall) : ToRadio (calls.map .client) := by
  intro call hcall
  obtain ⟨_, -, rfl⟩ := List.mem_map.mp hcall
  rfl

theorem gameSetMyScore_toRadio (d : Device) (score : UInt32) :
    ToRadio (gameSetMyScore d score).2 := by
  unfold gameSetMyScore
  dsimp only
  split
  · exact toRadio_server _
  split
  · exact toRadio_client _
  · exact nofun

theorem gameIndicateState_toRadio (d : Device) (state : GameState) :
    ToRadio (gameIndicateState d state) := by
  unfold gameIndicateState
  split
  · exact toRadio_server _
  · exact nofun

theorem deviceStep_toRadio (hturn : ∀ now, event ≠ .gameTasks now)
    (h : deviceStep t d event = some (d', calls)) : ToRadio calls := by
  cases event with
  | button pin action =>
    refine Runs.of_result (P := fun _ => ToRadio) h ?_
    rcases gameEventHandler_cases d pin action with ⟨_, -, hnone⟩ | ⟨-, score, hset⟩
    · rw [hnone]
      exact nofun
    · rw [hset]
      exact gameSetMyScore_toRadio d score
  | gameTasks now => exact absurd rfl (hturn now)
  | serviceTasks => exact Runs.of_result (P := fun _ => ToRadio) h nofun
  | setMyScore score =>
    exact Runs.of_result (P := fun _ => ToRadio) h (gameSetMyScore_toRadio d score)
  | incrementMyScore points =>
    exact Runs.of_result (P := fun _ => ToRadio) h (gameSetMyScore_toRadio d _)
  | tryConnect => exact Runs.of_result (P := fun _ => ToRadio) h (toRadio_client _)
  | ble evt uninit =>
    obtain ⟨_, clientCalls, _, serverCalls, -, -, -, rfl⟩ := serviceOnBleEvt_ends h
    exact List.forall_mem_append.mpr
      ⟨toRadio_client clientCalls, toRadio_server serverCalls⟩

/-- The readings of the tick counter that the game keeps. -/
def Game.readings (g : Game) : UInt32 × UInt32 × UInt32 :=
  (g.gameInitTicks, g.gameStartTicks, g.waterStartTicks)

/-- Between two turns of the game the water and the readings stay, and its
state stays or is that of a stop or a beginning. -/
structure Between (d : Device) (event : DeviceEvent) (d' : Device) : Prop where
  led3 : d'.led3 = d.led3
  readings : d'.game.readings = d.game.readings
  state : PeerSends d event → d'.game.gameState = d.game.gameState ∨
    d'.game.gameState = .init ∨ d'.game.gameState = .initializingGame

theorem deviceStep_between (hturn : ∀ now, event ≠ .gameTasks now)
    (h : deviceStep t d event = some (d', calls)) : Between d event d' := by
  have hset : ∀ score, Between d event (gameSetMyScore d score).1 := fun score =>
    ⟨gameSetMyScore_led3 d score, by simp [Game.readings], fun _ => .inl (by simp)⟩
  cases event with
  | button pin action =>
    refine Runs.state_of_result h ?_
    rcases gameEventHandler_cases d pin action with ⟨state, hstate, heq⟩ | ⟨-, score, heq⟩
    · rw [heq]
      exact ⟨rfl, rfl, fun _ => hstate.imp_right (Or.imp_right And.left)⟩
    · rw [heq]
      exact hset score
  | gameTasks now => exact absurd rfl (hturn now)
  | serviceTasks => exact Runs.state_of_result h ⟨rfl, rfl, fun _ => .inl rfl⟩
  | setMyScore score => exact Runs.state_of_result h (hset score)
  | incrementMyScore points => exact Runs.state_of_result h (hset _)
  | tryConnect => exact Runs.state_of_result h ⟨rfl, rfl, fun _ => .inl rfl⟩
  | ble evt uninit =>
    rcases serviceOnBleEvt_state h with ⟨-, client, server, rfl⟩ |
      ⟨data, state, client, server, hdata, hcopy, rfl⟩
    · exact ⟨rfl, rfl, fun _ => .inl rfl⟩
    refine ⟨rfl, rfl, fun hpeer => .inr ?_⟩
    rcases hpeer data hdata with rfl | rfl
    · rw [indicated, copyToWord_wordBytes] at hcopy
      cases hcopy
      exact .inl rfl
    · rw [indicated, copyToWord_wordBytes] at hcopy
      cases hcopy
      exact .inr rfl

-- ---------------------------------------------------------------------------
-- Turns
-- ---------------------------------------------------------------------------

def verdictText (lost : Bool) : String := if lost then "FAIL" else "PASS"

theorem verdictText_inFont (lost : Bool) : InFont (verdictText lost) := by
  cases lost <;> decide +kernel

section
variable (past : UInt8 → UInt16) (p : Panel) {buses : Nat → Bus}

theorem stop_blank (d : Device) (hbuses : ∀ i n, (buses i).arrives n = true)
    (address : DisplayAddress) :
    (panelPerform past p buses (gameIndicateState d .init ++
      [.sevenSegmentBlankDigits timeAddress, .sevenSegmentBlankDigits scoreAddress])).Shows
        address blank := by
  have hperform : panelPerform past p buses (gameIndicateState d .init ++
      [.sevenSegmentBlankDigits timeAddress, .sevenSegmentBlankDigits scoreAddress]) =
      panelStep past (panelStep past p (.blankDigits .time, buses 0))
        (.blankDigits .score, buses 1) := by
    rw [panelPerform, List.filterMap_append, (gameIndicateState_toRadio d .init).filterMap]
    rfl
  rw [hperform]
  revert address
  refine DisplayAddress.forall_iff.mpr ⟨?_, ?_⟩
  · exact (blankDigits_shows p .time (hbuses 0)).step (.blankDigits .score) (by decide)
  · exact blankDigits_shows _ .score (hbuses 1)

theorem gamePrintEnd_shows (myScore theirScore : UInt32)
    (hbuses : ∀ i n, (buses i).arrives n = true) (address : DisplayAddress) :
    (panelPerform past p buses (gamePrintEnd myScore theirScore)).Shows address
      (textShown (verdictText (myScore ≥ theirScore))) := by
  have hperform : panelPerform past p buses (gamePrintEnd myScore theirScore) =
      panelStep past
        (panelStep past p
          (.setCharDigits .score 0 (.ofString (verdictText (myScore ≥ theirScore))) .none, buses 0))
        (.setCharDigits .time 0 (.ofString (verdictText (myScore ≥ theirScore))) .none,
          buses 1) := by
    unfold gamePrintEnd verdictText
    simp only [decide_eq_true_eq]
    rfl
  have htext := verdictText_inFont (myScore ≥ theirScore)
  rw [hperform]
  revert address
  refine DisplayAddress.forall_iff.mpr ⟨?_, ?_⟩
  · exact setCharDigits_shows _ .time htext .none (hbuses 1)
  · refine (setCharDigits_shows p .score htext .none (hbuses 0)).step _ ?_
    show DisplayAddress.time ≠ .score
    decide

end

-- ---------------------------------------------------------------------------
-- Runs
-- ---------------------------------------------------------------------------

structure Console where
  device : Device
  panel : Panel

/-- An event of the device, with the bus of each call on a display that it makes. -/
structure ConsoleEvent where
  event : DeviceEvent
  buses : Nat → Bus

def consoleStep (t : AppTimer) (past : UInt8 → UInt16) (c : Console) (e : ConsoleEvent) :
    Option (Console × List DeviceCall) := do
  let (device, calls) ← deviceStep t c.device e.event
  return ({ device, panel := panelPerform past c.panel e.buses calls }, calls)

/-- Every write gets to its display within its tries. -/
def ConsoleEvent.Arrives (e : ConsoleEvent) : Prop := ∀ i n, (e.buses i).arrives n = true

theorem consoleStep_eq_some (h : consoleStep t past c e = some (c', calls)) :
    deviceStep t c.device e.event = some (c'.device, calls) ∧
      c'.panel = panelPerform past c.panel e.buses calls := by
  obtain ⟨⟨device, calls⟩, hstep, hret⟩ := Option.bind_eq_some_iff.mp h
  cases hret
  exact ⟨hstep, rfl⟩

/-- In the two states in which the game waits the panel says which it is, and
after a game whether the water is on. -/
structure Console.Tells (c : Console) : Prop where
  contained : c.device.Contained
  waiting : c.device.game.gameState = .waiting → ∀ address, c.panel.Shows address blank
  water : c.device.game.gameState = .water →
    ∀ address, c.panel.Shows address (textShown (verdictText (!c.device.led3)))

section
variable {c c' : Console}

theorem Console.Tells.of_state (hcontained : c.device.Contained)
    (hwaiting : c.device.game.gameState ≠ .waiting) (hwater : c.device.game.gameState ≠ .water) :
    c.Tells := ⟨hcontained, fun h => absurd h hwaiting, fun h => absurd h hwater⟩

theorem Console.Tells.between (h : c.Tells) (hcontained : c'.device.Contained)
    (hbetween : Between c.device event c'.device) (hpeer : PeerSends c.device event)
    (hpanel : c'.panel = c.panel) : c'.Tells := by
  rcases hbetween.state hpeer with hstate | hstate | hstate
  · refine ⟨hcontained, fun hwaiting => ?_, fun hwater => ?_⟩
    · rw [hpanel]
      exact h.waiting (hstate ▸ hwaiting)
    · rw [hpanel, hbetween.led3]
      exact h.water (hstate ▸ hwater)
  · exact .of_state hcontained (by rw [hstate]; decide) (by rw [hstate]; decide)
  · exact .of_state hcontained (by rw [hstate]; decide) (by rw [hstate]; decide)

theorem Console.Tells.turn (h : c.Tells) (hcontained : c'.device.Contained)
    (hturn : GameTurn c.device c'.device calls)
    (hpanel : c'.panel = panelPerform past c.panel buses calls)
    (hbuses : ∀ i n, (buses i).arrives n = true) : c'.Tells := by
  obtain ⟨d, p⟩ := c
  obtain ⟨d', p'⟩ := c'
  dsimp only at hturn hpanel hcontained
  subst hpanel
  cases hturn with
  | stop => exact ⟨hcontained, fun _ => stop_blank past p d hbuses, nofun⟩
  | begin => exact .of_state hcontained nofun nofun
  | countDown ms state hstate hnext =>
    rcases hnext with rfl | rfl
    · exact .of_state hcontained nofun nofun
    · exact .of_state hcontained nofun nofun
  | play => exact .of_state hcontained nofun nofun
  | score ms state hstate hnext =>
    rcases hnext with rfl | rfl
    · exact .of_state hcontained nofun nofun
    · exact .of_state hcontained nofun nofun
  | verdict ticks led3 hstate hled =>
    refine ⟨hcontained, nofun, fun _ => ?_⟩
    have hon : d.led3 = true :=
      h.contained.led3_of_ne (by rw [hstate]; decide) (by rw [hstate]; decide)
    have hlost : (!led3) = decide (d.game.myScore ≥ d.theirView) := by
      rw [hled, hon]
      by_cases hge : d.game.myScore ≥ d.theirView
      · simp [hge]
      · simp [hge]
    dsimp only
    rw [hlost]
    exact gamePrintEnd_shows past p _ _ hbuses
  | dry => exact .of_state hcontained nofun nofun
  | wait => exact ⟨hcontained, h.waiting, h.water⟩

theorem Console.Tells.step (h : c.Tells) (hpeer : PeerSends c.device e.event)
    (hdry : StartsDry c.device e.event) (harrives : e.Arrives)
    (hstep : consoleStep t past c e = some (c', calls)) : c'.Tells := by
  obtain ⟨hdevice, hpanel⟩ := consoleStep_eq_some hstep
  have hcontained := h.contained.step hpeer hdry hdevice
  by_cases hturn : ∃ now, e.event = .gameTasks now
  · obtain ⟨now, hnow⟩ := hturn
    rw [hnow] at hdevice
    refine h.turn hcontained ?_ hpanel harrives
    exact Runs.of_result (P := GameTurn c.device) hdevice (gameTasks_turn t c.device now)
  · have hother : ∀ now, e.event ≠ .gameTasks now := fun now hnow => hturn ⟨now, hnow⟩
    refine h.between hcontained (deviceStep_between hother hdevice) hpeer ?_
    rw [hpanel, (deviceStep_toRadio hother hdevice).panelPerform]

end

/-- Let the peer send the two states of this firmware and start no game while the
water is on, and let every write get to its display. Then from the boot on,
whatever the order of events and whatever the displays had before: while the
game waits for a start both are blank and the water is off, and in the water
phase both show FAIL when the water is on and PASS when it is off. -/
theorem console_tells (t : AppTimer) (past : UInt8 → UInt16) (valueHandles : List UInt16)
    (p : Panel) (events : List ConsoleEvent)
    (hevents : Runs.Guarded (consoleStep t past)
      (fun c e => PeerSends c.device e.event ∧ StartsDry c.device e.event)
      ⟨deviceBoot valueHandles, p⟩ events)
    (harrives : ∀ e ∈ events, e.Arrives)
    (hrun : Runs.run (consoleStep t past) ⟨deviceBoot valueHandles, p⟩ events = some (c, calls)) :
    (c.device.game.gameState = .waiting → c.device.led3 = true ∧
      ∀ address, c.panel.Shows address blank) ∧
    (c.device.game.gameState = .water → ∀ address,
      c.panel.Shows address (textShown (if c.device.led3 then "PASS" else "FAIL"))) := by
  have htells : c.Tells := (hevents.and_forall harrives).keeps (P := Console.Tells)
    (fun _ _ _ _ h hevent hstep => h.step hevent.1.1 hevent.1.2 hevent.2 hstep)
    (.of_state (.of_state (.inr rfl)) nofun nofun) hrun
  refine ⟨fun hwaiting => ⟨?_, htells.waiting hwaiting⟩, fun hwater => ?_⟩
  · exact htells.contained.led3_of_ne (by rw [hwaiting]; decide) (by rw [hwaiting]; decide)
  · have hshows := htells.water hwater
    cases hled : c.device.led3 with
    | true =>
      rw [hled] at hshows
      exact hshows
    | false =>
      rw [hled] at hshows
      exact hshows

theorem console_tells_lostGame : ∃ c calls,
    Runs.run (consoleStep appTimerSdk fun _ => 0) ⟨deviceBoot [], sevenSegmentInit.1, fun _ => 0xAA⟩
        (lostGame.map fun event => ⟨event, fun _ => .clear⟩) = some (c, calls) ∧
      c.device.led3 = false ∧ c.panel.Shows .time (textShown "FAIL") := by
  let events : List ConsoleEvent := lostGame.map fun event => ⟨event, fun _ => .clear⟩
  let boot : Console := ⟨deviceBoot [], sevenSegmentInit.1, fun _ => 0xAA⟩
  have hrun : (Runs.run (consoleStep appTimerSdk fun _ => 0) boot events).isSome := by
    decide +kernel
  obtain ⟨⟨c, calls⟩, h⟩ := Option.isSome_iff_exists.mp hrun
  have hend : ∀ r ∈ Runs.run (consoleStep appTimerSdk fun _ => 0) boot events,
      r.1.device.led3 = false ∧ r.1.device.game.gameState = .water := by decide +kernel
  obtain ⟨hoff, hwater⟩ := hend (c, calls) h
  have harrives : ∀ e ∈ events, e.Arrives := by
    intro e he
    obtain ⟨event, -, rfl⟩ := List.mem_map.mp he
    exact fun _ => Bus.clear_arrives
  have hshows := (console_tells appTimerSdk (fun _ => 0) [] _ events
    (by decide +kernel) harrives h).2 hwater .time
  rw [hoff] at hshows
  exact ⟨c, calls, h, hoff, hshows⟩

end WaterBall
