import WaterBall.Support.Texts
import WaterBall.Game.Readout

/-!
# The log of a game

Every turn of a game writes a line to the serial port: the time and the two
scores. Reading the lines back gives what was left and what the scores were, in
the order of the turns.
-/

namespace WaterBall

open Support Texts

-- ---------------------------------------------------------------------------
-- Lines
-- ---------------------------------------------------------------------------

theorem formatTwoDigits_eq (value : UInt32) :
    formatTwoDigits value = twoWide value.toInt32.toInt := rfl

structure LogLine where
  left : UInt32
  right : UInt32
  myScore : UInt32
  theirScore : UInt32
  deriving DecidableEq

/-- What a line holds behind its carriage return. -/
def LogLine.text (line : LogLine) : List Char :=
  '\t' :: ((formatTwoDigits line.left).toList ++ ':' ::
    ((formatTwoDigits line.right).toList ++ '\t' ::
      ((formatTwoDigits line.myScore).toList ++ ' ' :: (formatTwoDigits line.theirScore).toList)))

/-- A word from the text of a signed one. -/
def readWord (text : List Char) : Option UInt32 :=
  (readInt text).map fun i => (Int32.ofInt i).toUInt32

def isSeparator (c : Char) : Bool := c == '\t' || c == ':' || c == ' '

def readLogLine (text : List Char) : Option LogLine :=
  match text.splitOnP isSeparator with
  | [[], left, right, myScore, theirScore] => do
    return {
      left := ← readWord left
      right := ← readWord right
      myScore := ← readWord myScore
      theirScore := ← readWord theirScore }
  | _ => none

def logText (lines : List LogLine) : List Char := lines.flatMap fun line => '\r' :: line.text

def readLog (text : List Char) : Option (List LogLine) :=
  match text.splitOn '\r' with
  | [] :: lines => lines.mapM readLogLine
  | _ => none

theorem readWord_format (value : UInt32) :
    readWord (formatTwoDigits value).toList = some value := by
  rw [readWord, formatTwoDigits_eq, readInt_twoWide, Option.map_some, Int32.ofInt_toInt,
    UInt32.toUInt32_toInt32]

theorem not_separator (h : IsNumeral c) : isSeparator c = false ∧ c ≠ '\r' := by
  have hne (sep : Char) (hsep : sep ≠ '-' ∧ sep.isDigit = false) : c ≠ sep := by
    rintro rfl
    exact h.elim hsep.1 (Bool.eq_false_iff.mp hsep.2)
  refine ⟨?_, hne '\r' (by decide)⟩
  simp [isSeparator, hne '\t' (by decide), hne ':' (by decide), hne ' ' (by decide)]

theorem format_separates (value : UInt32) :
    ∀ c ∈ (formatTwoDigits value).toList, isSeparator c = false ∧ c ≠ '\r' :=
  fun c hc => not_separator (twoWide_numerals _ c hc)

theorem readLogLine_text (line : LogLine) : readLogLine line.text = some line := by
  have hfield (value : UInt32) : ∀ c ∈ (formatTwoDigits value).toList, isSeparator c = false :=
    fun c hc => (format_separates value c hc).1
  have hsplit : line.text.splitOnP isSeparator =
      [[], (formatTwoDigits line.left).toList, (formatTwoDigits line.right).toList,
        (formatTwoDigits line.myScore).toList, (formatTwoDigits line.theirScore).toList] := by
    rw [LogLine.text, ← List.nil_append ('\t' :: _),
      List.splitOnP_append_cons_of_forall_mem (by simp) '\t' rfl,
      List.splitOnP_append_cons_of_forall_mem (hfield _) ':' rfl,
      List.splitOnP_append_cons_of_forall_mem (hfield _) '\t' rfl,
      List.splitOnP_append_cons_of_forall_mem (hfield _) ' ' rfl,
      List.splitOnP_eq_singleton (hfield _)]
  rw [readLogLine, hsplit]
  simp only [readWord_format]
  rfl

theorem LogLine.text_unbroken (line : LogLine) : '\r' ∉ line.text := by
  have hfield (value : UInt32) : '\r' ∉ (formatTwoDigits value).toList :=
    fun hc => (format_separates value _ hc).2 rfl
  simp [LogLine.text, hfield]

theorem readLog_lines (lines : List LogLine) :
    readLog (logText lines) = some lines := by
  have hrecords : logText lines = (lines.map LogLine.text).flatMap fun r => '\r' :: r := by
    rw [logText, List.flatMap_map]
  have hunbroken : ∀ r ∈ lines.map LogLine.text, '\r' ∉ r :=
    List.forall_mem_map.mpr fun line _ => line.text_unbroken
  rw [readLog, hrecords, splitOn_records hunbroken]
  show (lines.map LogLine.text).mapM readLogLine = some lines
  have hread : readLogLine ∘ LogLine.text = fun line => pure (id line) := funext readLogLine_text
  rw [List.mapM_map, hread, List.mapM_pure, List.map_id]
  rfl

-- ---------------------------------------------------------------------------
-- What a device writes
-- ---------------------------------------------------------------------------

def DeviceCall.logged : DeviceCall → List Char
  | .serialWrite text => text.toList
  | _ => []

/-- Nothing is written to the serial port. -/
def Unlogged (calls : List DeviceCall) : Prop := ∀ text, .serialWrite text ∉ calls

def bufferLen : Nat := 128

/-- Every text fits into the buffer that it is printed to, its end included. -/
def Fits (calls : List DeviceCall) : Prop :=
  ∀ text, .serialWrite text ∈ calls → text.length < bufferLen

section
variable {calls : List DeviceCall}

theorem Unlogged.logged (h : Unlogged calls) : calls.flatMap DeviceCall.logged = [] := by
  refine List.flatMap_eq_nil_iff.mpr fun call hcall => ?_
  cases call with
  | serialWrite text => exact absurd hcall (h text)
  | _ => rfl

theorem Unlogged.fits (h : Unlogged calls) : Fits calls := fun text htext => absurd htext (h text)

theorem ToRadio.unlogged (h : ToRadio calls) : Unlogged calls := fun _ htext => by
  cases h _ htext

end

theorem GameTurn.unlogged (h : GameTurn d d' calls) (hstate : d.game.gameState ≠ .playing) :
    Unlogged calls := by
  intro text htext
  cases h with
  | stop =>
    rcases List.mem_append.mp htext with hindicated | hblanked
    · exact (gameIndicateState_toRadio d .init).unlogged text hindicated
    · simp at hblanked
  | begin ticks hbegin hset =>
    have hradio := gameSetMyScore_toRadio
      { d with game.theirScore := d.theirView, game.gameInitTicks := ticks } 0
    rw [hset] at hradio
    rcases List.mem_append.mp htext with hindicated | hscored
    · exact (gameIndicateState_toRadio d .initializingGame).unlogged text hindicated
    · exact hradio.unlogged text hscored
  | countDown ms state =>
    unfold gamePrintStart at htext
    dsimp only at htext
    split at htext
    · simp at htext
    · simp at htext
  | score ms state hplaying => exact hstate hplaying
  | verdict => simp [gamePrintEnd] at htext
  | play | dry | wait => cases htext

theorem formatTwoDigits_length (value : UInt32) : (formatTwoDigits value).length ≤ 11 := by
  have hlow := value.toInt32.le_toInt
  have hhigh := value.toInt32.toInt_lt
  exact length_twoWide_le (by decide) (by omega)

/-- The line of a turn of a game. -/
def scoreLine (d : Device) (ms : UInt32) : LogLine where
  left := (autoNumbers ms).1
  right := (autoNumbers ms).2
  myScore := gameGetMyScore d
  theirScore := d.theirView

theorem playing_logged (d : Device) (ms : UInt32) :
    (Phase.playing.shown d ms).flatMap DeviceCall.logged = '\r' :: (scoreLine d ms).text := by
  simp only [Phase.shown, gamePrintTime_auto, gamePrintScore, List.cons_append, List.nil_append,
    List.flatMap_cons, List.flatMap_nil, DeviceCall.logged, String.toList_append]
  simp [LogLine.text, scoreLine, gameGetMyScore]

theorem playing_fits (d : Device) (ms : UInt32) : Fits (Phase.playing.shown d ms) := by
  intro text htext
  have hleft := formatTwoDigits_length (autoNumbers ms).1
  have hright := formatTwoDigits_length (autoNumbers ms).2
  have hmy := formatTwoDigits_length d.game.myScore
  have htheir := formatTwoDigits_length d.theirView
  have hmarks : "\r\t".length = 2 ∧ ":".length = 1 ∧ "\t".length = 1 ∧ " ".length = 1 := by decide
  simp only [Phase.shown, gamePrintTime_auto, gamePrintScore, List.cons_append, List.nil_append,
    List.mem_cons, DeviceCall.serialWrite.injEq, reduceCtorEq, List.not_mem_nil, or_false,
    false_or] at htext
  rcases htext with rfl | rfl
  · rw [String.length_append, String.length_append, String.length_append, bufferLen]
    omega
  · rw [String.length_append, String.length_append, String.length_append, bufferLen]
    omega

-- ---------------------------------------------------------------------------
-- Runs
-- ---------------------------------------------------------------------------

/-- What an event is to log: a turn of a game, in true time. -/
def TimedEvent.logs (s : Timed) (e : TimedEvent) : List LogLine :=
  match e.event.event with
  | .gameTasks _ =>
    if s.console.device.game.gameState = .playing then
      [scoreLine s.console.device (.ofNat (s.left .playing e.time))]
    else []
  | _ => []

section
variable {t : AppTimer} {past : UInt8 → UInt16} {s s' : Timed} {e : TimedEvent}
  {calls : List DeviceCall}

theorem timedStep_logged (ht : t.IsSdk) (h : s.Clocked) (hreads : e.Reads s)
    (hstep : timedStep t past s e = some (s', calls)) :
    calls.flatMap DeviceCall.logged = logText (e.logs s) ∧ Fits calls := by
  obtain ⟨now, hturned⟩ | hstayed := timedStep_cases hstep
  · by_cases hstate : s.console.device.game.gameState = .playing
    · have hlogs : e.logs s = [scoreLine s.console.device (.ofNat (s.left .playing e.time))] := by
        rw [TimedEvent.logs, hturned.event]
        exact if_pos hstate
      have hphase : s.console.device.game.gameState = Phase.playing.state := hstate
      obtain ⟨ms, hms, rfl⟩ := h.shown ht hturned hreads hphase
      rw [hlogs, ← hms, UInt32.ofNat_toNat, playing_logged]
      exact ⟨(List.append_nil _).symm, playing_fits _ ms⟩
    · have hlogs : e.logs s = [] := by
        rw [TimedEvent.logs, hturned.event]
        exact if_neg hstate
      have hunlogged : Unlogged calls := hturned.written ▸
        (gameTasks_turn t s.console.device now).unlogged hstate
      rw [hlogs]
      exact ⟨hunlogged.logged, hunlogged.fits⟩
  · have hlogs : e.logs s = [] := by
      unfold TimedEvent.logs
      split
      case h_1 now hnow => exact absurd hnow (hstayed.event now)
      case h_2 => rfl
    rw [hlogs]
    exact ⟨hstayed.toRadio.unlogged.logged, hstayed.toRadio.unlogged.fits⟩

end

/-- From the boot on, whatever the order of events, as long as the turns of a
phase come before the counter is back at its start: reading back what was
written to the serial port gives a line for every turn in a game, in their
order, with what was left in true time and the scores as the device had them.
No text is cut by the buffer that it is printed to. -/
theorem log_reads_back (t : AppTimer) (ht : t.IsSdk) (past : UInt8 → UInt16)
    (valueHandles : List UInt16) (p : Panel) (events : List TimedEvent)
    (hevents : Runs.Guarded (timedStep t past) (fun s e => e.Reads s) (.boot valueHandles p) events)
    (hrun : Runs.run (timedStep t past) (.boot valueHandles p) events = some (s, calls)) :
    readLog (calls.flatMap DeviceCall.logged) =
        some (Runs.observed (timedStep t past) (fun s e => e.logs s) (.boot valueHandles p)
          events) ∧
      Fits calls := by
  obtain ⟨-, hlogged, hfits⟩ := hevents.reports
    (P := fun s lines calls => s.Clocked ∧ calls.flatMap DeviceCall.logged = logText lines ∧
      Fits calls)
    (fun s lines written e s' out h hreads hstep => by
      obtain ⟨hclocked, hlogged, hfits⟩ := h
      obtain ⟨hline, hfit⟩ := timedStep_logged ht hclocked hreads hstep
      refine ⟨hclocked.step hreads hstep, ?_, fun text htext => ?_⟩
      · rw [List.flatMap_append, hlogged, hline, logText, logText, logText, List.flatMap_append]
      · exact (List.mem_append.mp htext).elim (hfits text) (hfit text))
    [] [] ⟨.boot valueHandles p, rfl, nofun⟩ hrun
  exact ⟨hlogged ▸ readLog_lines _, hfits⟩

theorem log_reads_back_halfAGame : ∃ s calls,
    Runs.run (timedStep appTimerSdk fun _ => 0) (.boot [] ⟨sevenSegmentInit.1, fun _ => 0xAA⟩)
        halfAGame = some (s, calls) ∧
      readLog (calls.flatMap DeviceCall.logged) = some [⟨30, 0, 0, 0⟩] := by
  let boot : Timed := .boot [] ⟨sevenSegmentInit.1, fun _ => 0xAA⟩
  have hrun : (Runs.run (timedStep appTimerSdk fun _ => 0) boot halfAGame).isSome := by
    decide +kernel
  obtain ⟨⟨s, calls⟩, h⟩ := Option.isSome_iff_exists.mp hrun
  have hlines : Runs.observed (timedStep appTimerSdk fun _ => 0) (fun s e => e.logs s) boot
      halfAGame = [⟨30, 0, 0, 0⟩] := by decide +kernel
  obtain ⟨hread, -⟩ := log_reads_back appTimerSdk appTimerSdk_isSdk (fun _ => 0) [] _ halfAGame
    (by decide +kernel) h
  exact ⟨s, calls, h, hread.trans (congrArg some hlines)⟩

end WaterBall
